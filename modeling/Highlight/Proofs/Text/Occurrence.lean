/-
Where a word stands in a text: how often, and what lies before and behind
its first occurrence.

A text avoids a word if no occurrence begins in it, whatever text follows
(`Avoids`). That is closed under putting texts together and is decided for
fixed texts, so an occurrence behind a long text is found without looking
at every place of it (`cutAt?_append`).
-/
import Highlight.Text.Basic
import Mathlib.Data.List.Infix

namespace Highlight.Text

-- ========================================================== vocabulary

/-- How often a word stands in a text. -/
def occurrences (w t : Text) : Nat := t.tails.countP (w.isPrefixOf ·)

/-- The text before the first occurrence of a word, and the text behind
it. -/
def cutAt? (w : Text) : Text → Option (Text × Text)
  | [] => if w = [] then some ([], []) else none
  | c :: t =>
    if w.isPrefixOf (c :: t) then some ([], (c :: t).drop w.length)
    else (cutAt? w t).map fun (before, behind) => (c :: before, behind)

/-- No occurrence of the word begins in the text, whatever text follows: at
no place one of them begins with the other. -/
def Avoids (w : Text) : Text → Prop
  | [] => True
  | c :: s => ¬ w <+: c :: s ∧ ¬ c :: s <+: w ∧ Avoids w s

instance decidableAvoids (w : Text) : (s : Text) → Decidable (Avoids w s)
  | [] => inferInstanceAs (Decidable True)
  | c :: s =>
    have := decidableAvoids w s
    inferInstanceAs (Decidable (¬ w <+: c :: s ∧ ¬ c :: s <+: w ∧ Avoids w s))

-- ============================================================ avoiding

variable {w s t : Text}

theorem Avoids.append (hs : Avoids w s) (ht : Avoids w t) :
    Avoids w (s ++ t) := by
  induction s with
  | nil => exact ht
  | cons c s ih =>
      obtain ⟨hw, hc, hs⟩ := hs
      have hpre : c :: s <+: c :: s ++ t := List.prefix_append _ t
      refine ⟨fun h => ?_, fun h => hc (hpre.trans h), ih hs⟩
      exact (List.prefix_or_prefix_of_prefix h hpre).elim hw hc

/-- A number is written in digits. -/
theorem not_mem_toString {c : Char} (hc : c.isDigit = false) (n : Nat) :
    c ∉ (toString n).toList := by
  intro h
  have hdigit := Nat.isDigit_of_mem_toDigits (b := 10) (n := n)
    (by decide) (by decide) (by simpa using h)
  rw [hc] at hdigit
  cases hdigit

/-- A text without the first character of a word avoids it. -/
theorem avoids_of_not_mem {c : Char} (h : c ∉ s) : Avoids (c :: w) s := by
  induction s with
  | nil => exact trivial
  | cons d s ih =>
      rw [List.mem_cons, not_or] at h
      refine ⟨fun hp => h.1 (List.cons_prefix_cons.1 hp).1,
        fun hp => h.1 (List.cons_prefix_cons.1 hp).1.symm, ih h.2⟩

theorem Avoids.join {sep : Text} {ts : List Text} (hsep : Avoids w sep)
    (hts : ∀ t ∈ ts, Avoids w t) : Avoids w (join sep ts) := by
  induction ts with
  | nil => exact trivial
  | cons t ts ih =>
      rw [List.forall_mem_cons] at hts
      rcases ts with _ | ⟨u, ts⟩
      · simpa [Text.join, List.intercalate] using hts.1
      · have hjoin : Text.join sep (t :: u :: ts)
            = t ++ (sep ++ Text.join sep (u :: ts)) := by
          simp [Text.join, List.intercalate]
        rw [hjoin]
        exact hts.1.append (hsep.append (ih hts.2))

/-- No occurrence of a word begins where it is avoided. -/
theorem Avoids.isPrefixOf_eq_false {c : Char} (h : Avoids w (c :: s))
    (r : Text) : w.isPrefixOf (c :: (s ++ r)) = false := by
  rw [← Bool.not_eq_true, List.isPrefixOf_iff_prefix]
  intro hw
  have hpre : c :: s <+: c :: (s ++ r) := List.prefix_append (c :: s) r
  exact (List.prefix_or_prefix_of_prefix hw hpre).elim h.1 h.2.1

theorem occurrences_append (h : Avoids w s) (r : Text) :
    occurrences w (s ++ r) = occurrences w r := by
  induction s with
  | nil => rfl
  | cons c s ih =>
      have hhere := h.isPrefixOf_eq_false r
      unfold occurrences at ih ⊢
      rw [List.cons_append, List.tails_cons, List.countP_cons_of_neg
        (by rw [hhere]; exact Bool.false_ne_true), ih h.2.2]

/-- The first occurrence of a word behind a text that avoids it. -/
theorem cutAt?_append (h : Avoids w s) (r : Text) :
    cutAt? w (s ++ (w ++ r)) = some (s, r) := by
  induction s with
  | nil =>
      have hw : w.isPrefixOf (w ++ r) = true :=
        List.isPrefixOf_iff_prefix.2 (List.prefix_append w r)
      rw [List.nil_append]
      cases hwr : w ++ r with
      | nil =>
          obtain ⟨rfl, rfl⟩ := List.append_eq_nil_iff.1 hwr
          rfl
      | cons c t =>
          rw [hwr] at hw
          rw [cutAt?, if_pos hw, ← hwr, List.drop_left]
  | cons c s ih =>
      have hhere := h.isPrefixOf_eq_false (w ++ r)
      rw [List.cons_append, cutAt?, if_neg
        (by rw [hhere]; exact Bool.false_ne_true), ih h.2.2]
      rfl

end Highlight.Text
