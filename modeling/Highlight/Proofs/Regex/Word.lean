/-
Patterns that stand for a word: one character after the other.

Such a pattern has an end just where the word stands, so a search for it
ends behind the first place where it does (`Pattern.searchEnd?_eq_of_word`).
The look at the next characters that a search takes first tells no more
than that.
-/
import Highlight.Proofs.Regex.Width

namespace Highlight.Regex

-- ========================================================== vocabulary

/-- The spot so many characters on. -/
def Spot.skip (s : Spot) (n : Nat) : Spot where
  before := (s.after.take n).reverse ++ s.before
  after := s.after.drop n
  pos := ((s.after.take n).reverse ++ s.before).length
  left := (s.after.drop n).length
  pos_eq := rfl
  left_eq := rfl

/-- The pattern that stands for a word. -/
def Node.word (w : Text) : Node :=
  .ofList (w.map fun c => .one (.char .exact c.toNat))

/-- Nothing is noted that keeps a match from being told, and there are no
groups. -/
structure Node.IsFlat (n : Node) : Prop where
  plain : n.isPlain
  numbered : ∀ g, n.numbered g = some g

/-- Where a word first ends in a text. -/
def wordEnd? (w : Text) : Text → Option Nat
  | [] => if w = [] then some 0 else none
  | c :: t =>
    if w.isPrefixOf (c :: t) then some w.length
    else (wordEnd? w t).map (· + 1)

-- =============================================================== skips

namespace Spot

theorem skip_zero (s : Spot) : s.skip 0 = s := eq_of_halves rfl rfl

/-- Skipped characters count. -/
theorem pos_skip {s : Spot} {n : Nat} (h : n ≤ s.after.length) :
    (s.skip n).pos = s.pos + n := by
  show ((s.after.take n).reverse ++ s.before).length = s.pos + n
  rw [List.length_append, List.length_reverse, List.length_take_of_le h,
    s.pos_eq, Nat.add_comm]

/-- Characters can be skipped in two goes. -/
theorem skip_skip (s : Spot) (m n : Nat) :
    (s.skip m).skip n = s.skip (m + n) := by
  refine eq_of_halves ?_ ?_
  · show ((s.after.drop m).take n).reverse
        ++ ((s.after.take m).reverse ++ s.before)
      = (s.after.take (m + n)).reverse ++ s.before
    rw [List.take_add, List.reverse_append, List.append_assoc]
  · show (s.after.drop m).drop n = s.after.drop (m + n)
    rw [List.drop_drop]

theorem after_skip_one {s : Spot} {c : Char} {r : Text}
    (h : s.after = c :: r) : (s.skip 1).after = r := by
  show s.after.drop 1 = r
  rw [h]
  rfl

/-- Skipping leads forward. -/
theorem leads_skip (s : Spot) (n : Nat) : s.Leads (s.skip n) :=
  ⟨s.after.take n, (List.take_append_drop n s.after).symm, rfl⟩

/-- The next character is the first of the rest. -/
theorem next?_cons {s : Spot} {c : Char} {r : Text} (h : s.after = c :: r) :
    s.next? = some (c, s.skip 1) := by
  rw [next?_eq_some_iff]
  constructor
  · show s.after = c :: s.after.drop 1
    rw [h]
    rfl
  · show (s.after.take 1).reverse ++ s.before = c :: s.before
    rw [h]
    rfl

/-- A step skips one character of the set. -/
theorem step?_cons {s : Spot} {c : Char} {r : Text} {set : CharSet}
    (h : s.after = c :: r) :
    s.step? set = if set.mem c then some (s.skip 1) else none := by
  unfold step?
  rw [next?_cons h]

theorem step?_nil {s : Spot} {set : CharSet} (h : s.after = []) :
    s.step? set = none := by
  rw [step?_eq_none_iff]
  simp [isBarred, h]

end Spot

-- ================================================================ rows

namespace Node

variable {a b : Node} {ns : List Node}

/-- A place for a character always asks for one. -/
theorem isFlat_one (set : CharSet) : (Node.one set).IsFlat :=
  ⟨rfl, fun _ => rfl⟩

/-- Two flat parts in a row are flat. -/
theorem IsFlat.seq (ha : a.IsFlat) (hb : b.IsFlat) :
    (Node.seq a b).IsFlat where
  plain := by
    show (a.isPlain && b.isPlain) = true
    rw [ha.plain, hb.plain]
    rfl
  numbered g := by
    show (a.numbered g).bind b.numbered = some g
    rw [ha.numbered]
    exact hb.numbered g

/-- A row of nodes without groups has none either. -/
theorem isFlat_ofList (h : ∀ n ∈ ns, n.IsFlat) : (ofList ns).IsFlat := by
  induction ns with
  | nil => exact ⟨rfl, fun _ => rfl⟩
  | cons n ns ih =>
      rw [List.forall_mem_cons] at h
      cases ns with
      | nil => exact h.1
      | cons m ns => exact h.1.seq (ih h.2)

end Node

-- ================================================================ words

theorem toNat_beq (c d : Char) : (c.toNat == d.toNat) = (c == d) := by
  rw [Bool.eq_iff_iff, beq_iff_eq, beq_iff_eq]
  exact ⟨fun h => Char.ext (UInt32.toNat_inj.1 h), fun h => by rw [h]⟩

/-- The set of one character has that character alone. -/
theorem mem_char_iff {c d : Char} :
    (CharSet.char .exact c.toNat).mem d = true ↔ d = c := by
  rw [CharSet.mem_char_exact, toNat_beq, beq_iff_eq]

/-- What follows the first node begins at its ends. -/
theorem ends_ofList_cons (n : Node) (ns : List Node) (s : Spot) :
    (Node.ofList (n :: ns)).ends s
      = (n.ends s).flatMap (Node.ofList ns).ends := by
  cases ns with
  | nil => exact (List.flatMap_singleton' _).symm
  | cons m ns => rfl

/-- A word has one end where it stands, and none elsewhere. -/
theorem ends_word (w : Text) (s : Spot) :
    (Node.word w).ends s
      = if w.isPrefixOf s.after then [s.skip w.length] else [] := by
  -- Character by character; after the first that differs nothing is left.
  induction w generalizing s with
  | nil =>
      show [s] = [s.skip 0]
      rw [s.skip_zero]
  | cons c w ih =>
      unfold Node.word at ih ⊢
      rw [List.map_cons, ends_ofList_cons]
      unfold Node.ends
      cases hs : s.after with
      | nil =>
          rw [Spot.step?_nil hs]
          rfl
      | cons d r =>
          rw [Spot.step?_cons hs]
          by_cases hd : d = c
          · subst hd
            rw [if_pos (mem_char_iff.2 rfl)]
            show [s.skip 1].flatMap _ = _
            rw [List.flatMap_singleton, ih]
            rw [Spot.after_skip_one hs, List.isPrefixOf_cons_cons,
              beq_self_eq_true, Bool.true_and, List.length_cons,
              Spot.skip_skip, Nat.add_comm 1]
          · rw [if_neg (fun h => hd (mem_char_iff.1 h)),
              List.isPrefixOf_cons_cons]
            have hcd : (c == d) = false := by
              rw [beq_eq_false_iff_ne]
              exact fun h => hd h.symm
            rw [hcd]
            rfl

theorem word_cons_cons (c d : Char) (w : Text) :
    Node.word (c :: d :: w)
      = .seq (.one (.char .exact c.toNat)) (Node.word (d :: w)) := rfl

/-- A word has no choice to make, so it has one end at most. -/
theorem isFlat_word (w : Text) : (Node.word w).IsFlat :=
  Node.isFlat_ofList (List.forall_mem_map.2 fun _ _ => Node.isFlat_one _)

/-- A search may look for all of a word at once. -/
theorem literals_word (w : Text) :
    (Node.word w).literals = (w.map Char.toNat, true) := by
  induction w with
  | nil => rfl
  | cons c w ih =>
      cases w with
      | nil => rfl
      | cons d w =>
          rw [word_cons_cons]
          unfold Node.literals
          rw [ih]
          rfl

/-- The least width of a word is positive, and no more than its length; it
is cut off for long words. -/
theorem width_word (w : Text) (hw : w ≠ []) :
    0 < (Node.word w).width.least ∧ (Node.word w).width.least ≤ w.length := by
  induction w with
  | nil => exact absurd rfl hw
  | cons c w ih =>
      cases w with
      | nil => exact ⟨Nat.one_pos, Nat.le_refl 1⟩
      | cons d w =>
          obtain ⟨hlo, hhi⟩ := ih (List.cons_ne_nil d w)
          rw [word_cons_cons, List.length_cons]
          show 0 < min (1 + _) (Width.cap - 1) ∧ min (1 + _) _ ≤ _
          have hcap : Width.cap - 1 = 4294967294 := rfl
          omega

-- =============================================================== search

/-- A word that is found fits into the text. -/
theorem wordEnd?_bounds {w t : Text} {n : Nat} (h : wordEnd? w t = some n) :
    w.length ≤ n ∧ n ≤ t.length := by
  induction t generalizing n with
  | nil =>
      unfold wordEnd? at h
      split at h
      · next hw =>
        cases h
        rw [hw]
        exact ⟨Nat.le_refl 0, Nat.le_refl 0⟩
      · cases h
  | cons c t ih =>
      unfold wordEnd? at h
      split at h
      · next hp =>
        cases h
        exact ⟨Nat.le_refl _, (List.isPrefixOf_iff_prefix.1 hp).length_le⟩
      · obtain ⟨m, hm, rfl⟩ := Option.map_eq_some_iff.1 h
        have := ih hm
        rw [List.length_cons]
        omega

/-- The next characters are those of the word just where it stands. -/
theorem admits_word (w : Text) (s : Spot) :
    (Scout.text (w.map Char.toNat)).admits s = w.isPrefixOf s.after := by
  show List.isPrefixOf _ ((s.after.take (w.map Char.toNat).length).map _) = _
  rw [List.length_map]
  generalize s.after = t
  induction w generalizing t with
  | nil => rfl
  | cons c w ih =>
      cases t with
      | nil => rfl
      | cons d t =>
          rw [List.length_cons, List.take_succ_cons, List.map_cons,
            List.map_cons, List.isPrefixOf_cons_cons,
            List.isPrefixOf_cons_cons, ih, toNat_beq]

end Highlight.Regex

-- ============================================================= patterns

namespace Highlight.Pattern

open Regex (Spot Node Trail Scout wordEnd?)

/-- At the end of a text one attempt is left. -/
theorem seek_of_nil {scout : Scout} {n : Node} {s : Spot}
    (h : s.after = []) :
    seek scout n s = if scout.admits s then trail? n s else none := by
  rw [seek]
  generalize (if scout.admits s then trail? n s else none) = o
  split
  · cases o <;> rfl
  · next hn =>
    rw [Spot.next?_eq_none_iff.2 h] at hn
    cases hn

/-- An attempt here comes before those further on. -/
theorem seek_of_cons {scout : Scout} {n : Node} {s : Spot} {c : Char}
    {r : Text} (h : s.after = c :: r) :
    seek scout n s
      = (if scout.admits s then trail? n s else none).or
          (seek scout n (s.skip 1)) := by
  rw [seek]
  generalize (if scout.admits s then trail? n s else none) = o
  split
  · next hn =>
    rw [Spot.next?_cons h] at hn
    cases hn
  · next d u hn =>
    rw [Spot.next?_cons h] at hn
    cases hn
    cases o <;> rfl

/-- The match that a search finds begins at some spot ahead. -/
theorem exists_trail_of_seek {scout : Scout} {n : Node} {s : Spot}
    {x : Trail} (h : seek scout n s = some x) :
    ∃ u, s.Leads u ∧ trail? n u = some x := by
  have hhere : ∀ {s : Spot},
      (if scout.admits s then trail? n s else none) = some x →
        ∃ u, s.Leads u ∧ trail? n u = some x := by
    intro s h
    split at h
    · exact ⟨s, .refl s, h⟩
    · cases h
  generalize hr : s.after = r at h
  induction r generalizing s with
  | nil =>
      rw [seek_of_nil hr] at h
      exact hhere h
  | cons c r ih =>
      rw [seek_of_cons hr] at h
      rcases Option.or_eq_some_iff.1 h with h | ⟨-, h⟩
      · exact hhere h
      · obtain ⟨u, hu, hx⟩ := ih h (Spot.after_skip_one hr)
        exact ⟨u, (s.leads_skip 1).trans hu, hx⟩

/-- Where a word stands, an attempt ends behind it. -/
theorem trail_word (w : Text) (s : Spot) :
    (if (Scout.text (w.map Char.toNat)).admits s then
        trail? (.word w) s else none).map (·.foot.pos)
      = if w.isPrefixOf s.after then some (s.pos + w.length) else none := by
  have hfoot := Regex.foot_of_trail? (Regex.isFlat_word w).plain s
  rw [Regex.ends_word] at hfoot
  rw [Regex.admits_word]
  split
  · next hp =>
    rw [if_pos hp] at hfoot
    have hle := (List.isPrefixOf_iff_prefix.1 hp).length_le
    rw [← Spot.pos_skip hle]
    have := congrArg (Option.map Spot.pos) hfoot
    rw [Option.map_map] at this
    exact this
  · rfl

/-- A search for a word ends where the word first ends. -/
theorem seek_word {w : Text} (hw : w ≠ []) (s : Spot) :
    (seek (.text (w.map Char.toNat)) (.word w) s).map (·.foot.pos)
      = (wordEnd? w s.after).map (s.pos + ·) := by
  generalize hr : s.after = r
  induction r generalizing s with
  | nil =>
      rw [seek_of_nil hr, trail_word, hr]
      unfold wordEnd?
      rw [if_neg hw]
      cases w with
      | nil => exact absurd rfl hw
      | cons c w => rfl
  | cons c r ih =>
      have hpos : (s.skip 1).pos = s.pos + 1 :=
        Spot.pos_skip (by rw [hr]; exact Nat.le_add_left 1 _)
      have hrest := ih (s.skip 1) (Spot.after_skip_one hr)
      rw [seek_of_cons hr]
      have hstep := trail_word w s
      rw [hr] at hstep
      unfold wordEnd?
      by_cases hp : w.isPrefixOf (c :: r)
      · rw [if_pos hp] at hstep ⊢
        obtain ⟨x, hx, hpos⟩ := Option.map_eq_some_iff.1 hstep
        rw [hx]
        exact congrArg some hpos
      · rw [if_neg hp] at hstep ⊢
        rw [Option.map_eq_none_iff.1 hstep, Option.none_or, hrest, hpos,
          Option.map_map]
        congr 1
        funext n
        show s.pos + 1 + n = s.pos + (n + 1)
        omega

/-- A search for a pattern that stands for a word. -/
theorem searchEnd?_eq_of_word {p : Pattern} {w : Text} (hw : w ≠ [])
    (hp : p.node = .word w) (t : Text) :
    p.searchEnd? t = .ok (wordEnd? w t) := by
  have hflat := Regex.isFlat_word w
  obtain ⟨hpos, hle⟩ := Regex.width_word w hw
  have hscout : p.node.scout p.flags.ascii
      = .text (w.map Char.toNat) := by
    unfold Node.scout
    rw [hp, if_neg (Nat.ne_of_gt hpos), Regex.literals_word]
    cases w with
    | nil => exact absurd rfl hw
    | cons c w => rfl
  unfold searchEnd?
  split
  · rw [hscout, hp, endOf_eq hflat.plain (hflat.numbered 0) fun x hx =>
      exists_trail_of_seek hx]
    have hseek := seek_word hw (.start t)
    rw [hseek]
    show Except.ok ((wordEnd? w t).map (0 + ·)) = _
    cases wordEnd? w t with
    | none => rfl
    | some n =>
        show Except.ok (some (0 + n)) = _
        rw [Nat.zero_add]
  · next hfits =>
    cases hn : wordEnd? w t with
    | none => rfl
    | some n =>
        exfalso
        obtain ⟨hlo, hhi⟩ := Regex.wordEnd?_bounds hn
        apply hfits
        unfold fits
        rw [hp, decide_eq_true_eq]
        omega

end Highlight.Pattern
