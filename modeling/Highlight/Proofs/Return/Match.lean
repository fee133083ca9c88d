/-
What patterns match in a line and in the line with a carriage return behind
it.

Most patterns match the same (`Pattern.Steady`). Those that run to the end
of a line, as blanks and the comments of one line do, take the carriage
return as well if they have taken all before it (`Pattern.Absorbs`). A
search for a word does not come upon the carriage return
(`Pattern.steadySearch_of_word`).
-/
import Highlight.Proofs.Return.Ends
import Highlight.Proofs.Regex.Choice

namespace Highlight

open Regex (CharSet Node Spot Trails)

-- ========================================================== vocabulary

namespace Pattern

/-- The pattern always has an answer, and never matches without taking some
text. -/
structure Advances (p : Pattern) : Prop where
  answers : ∀ t, ∃ o, p.matchLength? t = .ok o
  ne_zero : ∀ t, p.matchLength? t ≠ .ok (some 0)

/-- A carriage return behind the line changes nothing. -/
def Steady (p : Pattern) : Prop :=
  ∀ t, p.matchLength? (t ++ ['\r']) = p.matchLength? t

/-- A carriage return behind the line is taken by a match of the whole
line, and changes nothing else. -/
def Absorbs (p : Pattern) : Prop :=
  ∀ t, t ≠ [] → '\n' ∉ t → p.matchLength? (t ++ ['\r']) = p.matchLength? t
    ∨ p.matchLength? t = .ok (some t.length)
      ∧ p.matchLength? (t ++ ['\r']) = .ok (some (t.length + 1))

/-- A search always has an answer, which does not depend on a carriage
return behind the line. -/
def SteadySearch (p : Pattern) : Prop :=
  ∀ t, ∃ o, p.searchEnd? t = .ok o ∧ p.searchEnd? (t ++ ['\r']) = .ok o

/-- The pattern needs some text and has no groups that could cross. -/
def isAdvancing (p : Pattern) : Bool :=
  p.isOrderly && 0 < p.node.width.least

/-- No end of the pattern depends on a carriage return behind the line or
lies behind one. -/
def isSteady (p : Pattern) : Bool :=
  p.isOrderly && p.node.isRobust && p.node.isSealed

end Pattern

-- ================================================================ words

/-- A word begins where it did. -/
theorem isPrefixOf_append_return {w : Text} (hw : '\r' ∉ w) (t : Text) :
    w.isPrefixOf (t ++ ['\r']) = w.isPrefixOf t := by
  rw [Bool.eq_iff_iff, List.isPrefixOf_iff_prefix,
    List.isPrefixOf_iff_prefix, List.prefix_concat_iff]
  constructor
  · rintro (rfl | h)
    · exact absurd (List.mem_append_right t List.mem_cons_self) hw
    · exact h
  · exact Or.inr

/-- A word first ends where it did. -/
theorem wordEnd?_append_return {w : Text} (hw : '\r' ∉ w) (t : Text) :
    Regex.wordEnd? w (t ++ ['\r']) = Regex.wordEnd? w t := by
  induction t with
  | nil =>
      cases w with
      | nil => rfl
      | cons d w =>
          have hpre : (d :: w).isPrefixOf ['\r'] = false :=
            isPrefixOf_append_return hw []
          show (if (d :: w).isPrefixOf ['\r'] then _ else _) = none
          rw [hpre]
          rfl
  | cons c t ih =>
      have hpre := isPrefixOf_append_return hw (c :: t)
      rw [List.cons_append] at hpre ⊢
      unfold Regex.wordEnd?
      rw [hpre, ih]

namespace Pattern

variable {p : Pattern}

-- ============================================================== answers

theorem advances_of_isAdvancing (h : p.isAdvancing) : p.Advances := by
  obtain ⟨horderly, hwidth⟩ := Bool.and_eq_true _ _ ▸ h
  exact ⟨fun t => ⟨_, matchLength?_eq horderly t⟩,
    ne_zero_of_width horderly (of_decide_eq_true hwidth)⟩

/-- What matches the empty line would take no text. -/
theorem Advances.nil (h : p.Advances) : p.matchLength? [] = .ok none := by
  obtain ⟨o, ho⟩ := h.answers []
  cases o with
  | none => exact ho
  | some n =>
      have hle : n ≤ 0 := matchLength?_le ho
      rw [Nat.le_zero.1 hle] at ho
      exact absurd ho (h.ne_zero [])

-- ======================================================= steady patterns

theorem steady_of_isSteady (h : p.isSteady) : p.Steady := by
  obtain ⟨h, hsealed⟩ := Bool.and_eq_true _ _ ▸ h
  obtain ⟨horderly, hrobust⟩ := Bool.and_eq_true _ _ ▸ h
  obtain ⟨hplain, -⟩ := Bool.and_eq_true _ _ ▸ horderly
  intro t
  have htrails : Trails (.start t) (.start (t ++ ['\r'])) := ⟨rfl, rfl⟩
  have hkept := (Node.retains_ends hplain hrobust).kept _ _ htrails
  -- nothing is left out, for no end lies behind the carriage return
  have hinner : ∀ u ∈ p.node.ends (.start (t ++ ['\r'])), u.isInner := by
    intro u hu
    obtain ⟨w, hw⟩ := Node.stays_ends hplain hsealed _ ⟨t, rfl⟩ u hu
    unfold Spot.isInner
    rw [hw]
    cases w <;> rfl
  rw [List.filter_eq_self.2 hinner] at hkept
  rw [matchLength?_eq horderly, matchLength?_eq horderly,
    Regex.head?_pos_of_trails hkept]

theorem Steady.absorbs (h : p.Steady) : p.Absorbs :=
  fun t _ _ => Or.inl (h t)

-- ===================================================== whole lines

/-- The carriage return is one blank more. -/
theorem absorbs_blanks (hp : p.node = .anchored .blankRun) : p.Absorbs := by
  intro t hne _
  obtain ⟨c, r, rfl⟩ := List.exists_cons_of_ne_nil hne
  rw [matchLength?_run hp, matchLength?_run hp]
  generalize hset : CharSet.ofCategory false .space false = set
  have hmem : set.mem '\r' = true := by
    rw [← hset]
    decide
  rw [List.cons_append, List.head?_cons, List.head?_cons, Option.any_some,
    ← List.cons_append, List.takeWhile_append]
  cases hc : set.mem c with
  | false => exact Or.inl rfl
  | true =>
      rw [if_pos rfl, if_pos rfl]
      split
      · next hall =>
        refine Or.inr ⟨by rw [hall], ?_⟩
        have hlast : ['\r'].takeWhile (set.mem ·) = ['\r'] :=
          List.takeWhile_cons_of_pos hmem
        rw [hlast, List.length_append]
        rfl
      · exact Or.inl rfl

theorem absorbs_comment {w : Text} (hw : '\r' ∉ w)
    (hp : p.node = .anchored (.comment w)) : p.Absorbs := by
  intro t _ ht
  have ht' : '\n' ∉ t ++ ['\r'] := by
    rw [List.mem_append, not_or]
    exact ⟨ht, by decide⟩
  rw [matchLength?_comment hp ht, matchLength?_comment hp ht',
    isPrefixOf_append_return hw]
  split
  · rw [List.length_append]
    exact Or.inr ⟨rfl, rfl⟩
  · exact Or.inl rfl

-- ============================================================= searches

theorem steadySearch_of_word {w : Text} (hne : w ≠ []) (hw : '\r' ∉ w)
    (hp : p.node = .word w) : p.SteadySearch := by
  intro t
  refine ⟨_, searchEnd?_eq_of_word hne hp t, ?_⟩
  rw [searchEnd?_eq_of_word hne hp, wordEnd?_append_return hw]

end Pattern

end Highlight
