/-
What a search finds: the leftmost match of a pattern in a text.

A search goes from spot to spot and takes the first match that it can find
(`Pattern.seek_eq_some_iff`). It passes over the spots that are not worth
a try (`Scout`), so a match is found at a spot if the pattern matches there
and the search tries it. What a search answers is where the leftmost of
these matches ends (`Pattern.searchEnd?_eq_some_iff`).
-/
import Highlight.Proofs.Regex.Word

namespace Highlight.Pattern

open Regex (Spot Node Trail Scout Crossing)

-- ========================================================== vocabulary

/-- The pattern matches at the spot with this trail, and a search tries
it there. -/
def FoundAt (scout : Scout) (n : Node) (s : Spot) (x : Trail) : Prop :=
  scout.admits s = true ∧ trail? n s = some x

/-- From a spot on, the first match to be found begins so many characters
ahead. -/
structure IsFirstFound (scout : Scout) (n : Node) (s : Spot) (i : Nat)
    (x : Trail) : Prop where
  le : i ≤ s.after.length
  found : FoundAt scout n (s.skip i) x
  none_before : ∀ j < i, ∀ y, ¬ FoundAt scout n (s.skip j) y

/-- The leftmost match of the pattern that is found in a text ends behind
so many characters. -/
def LeftmostEnd (p : Pattern) (t : Text) (m : Nat) : Prop :=
  p.fits t = true ∧ ∃ i x,
    IsFirstFound (p.node.scout p.flags.ascii) p.node (.start t) i x
      ∧ endOf t (some x) = .ok (some m)

variable {scout : Scout} {n : Node} {s : Spot} {x : Trail} {p : Pattern}
  {t : Text}

-- ============================================================ one spot

theorem ite_eq_some_iff_foundAt :
    (if scout.admits s then trail? n s else none) = some x
      ↔ FoundAt scout n s x := by
  unfold FoundAt
  split
  · next h => simp [h]
  · next h => simp [h]

theorem ite_eq_none_iff_foundAt :
    (if scout.admits s then trail? n s else none) = none
      ↔ ∀ y, ¬ FoundAt scout n s y := by
  rw [Option.eq_none_iff_forall_ne_some]
  exact forall_congr' fun y => not_congr ite_eq_some_iff_foundAt

/-- A match that is found at once is the first one. -/
theorem isFirstFound_zero :
    IsFirstFound scout n s 0 x ↔ FoundAt scout n s x := by
  constructor
  · intro h
    simpa only [Spot.skip_zero] using h.found
  · intro h
    exact ⟨Nat.zero_le _, by rwa [Spot.skip_zero],
      fun j hj => absurd hj (Nat.not_lt_zero j)⟩

/-- A match further on is the first one if none is found here and it is
the first one from the next spot on. -/
theorem isFirstFound_succ {c : Char} {r : Text} {i : Nat}
    (hs : s.after = c :: r) :
    IsFirstFound scout n s (i + 1) x
      ↔ (∀ y, ¬ FoundAt scout n s y)
        ∧ IsFirstFound scout n (s.skip 1) i x := by
  have hlen : s.after.length = (s.skip 1).after.length + 1 := by
    rw [Spot.after_skip_one hs, hs, List.length_cons]
  have hskip : ∀ j, (s.skip 1).skip j = s.skip (j + 1) := by
    intro j
    rw [Spot.skip_skip, Nat.add_comm]
  constructor
  · intro h
    refine ⟨?_, ?_, ?_, ?_⟩
    · simpa only [Spot.skip_zero] using h.none_before 0 (Nat.succ_pos i)
    · have := h.le
      omega
    · rw [hskip]
      exact h.found
    · intro j hj
      rw [hskip]
      exact h.none_before (j + 1) (Nat.succ_lt_succ hj)
  · rintro ⟨hnone, h⟩
    refine ⟨?_, ?_, ?_⟩
    · have := h.le
      omega
    · rw [← hskip]
      exact h.found
    · intro j hj
      cases j with
      | zero => rwa [Spot.skip_zero]
      | succ j =>
          rw [← hskip]
          exact h.none_before j (Nat.lt_of_succ_lt_succ hj)

-- ========================================================= all the spots

/-- A search finds the first match to be found. -/
theorem seek_eq_some_iff :
    seek scout n s = some x ↔ ∃ i, IsFirstFound scout n s i x := by
  induction hr : s.after generalizing s with
  | nil =>
      rw [seek_of_nil hr, ite_eq_some_iff_foundAt]
      constructor
      · intro h
        exact ⟨0, isFirstFound_zero.2 h⟩
      · rintro ⟨i, h⟩
        have hi : i = 0 := by
          have := h.le
          rw [hr] at this
          simpa using this
        subst hi
        exact isFirstFound_zero.1 h
  | cons c r ih =>
      rw [seek_of_cons hr, Option.or_eq_some_iff, ite_eq_some_iff_foundAt,
        ite_eq_none_iff_foundAt, ih (Spot.after_skip_one hr)]
      constructor
      · rintro (h | ⟨hnone, i, h⟩)
        · exact ⟨0, isFirstFound_zero.2 h⟩
        · exact ⟨i + 1, (isFirstFound_succ hr).2 ⟨hnone, h⟩⟩
      · rintro ⟨i, h⟩
        cases i with
        | zero => exact Or.inl (isFirstFound_zero.1 h)
        | succ i =>
            obtain ⟨hnone, h⟩ := (isFirstFound_succ hr).1 h
            exact Or.inr ⟨hnone, i, h⟩

/-- A search answers where the leftmost match ends. -/
theorem searchEnd?_eq_some_iff {m : Nat} :
    p.searchEnd? t = .ok (some m) ↔ p.LeftmostEnd t m := by
  unfold searchEnd? LeftmostEnd
  constructor
  · intro h
    split at h
    · next hfits =>
      cases hseek : seek (p.node.scout p.flags.ascii) p.node (.start t) with
      | none =>
          rw [hseek] at h
          cases h
      | some x =>
          rw [hseek] at h
          obtain ⟨i, hi⟩ := seek_eq_some_iff.1 hseek
          exact ⟨hfits, i, x, hi, h⟩
    · cases h
  · rintro ⟨hfits, i, x, hi, h⟩
    rw [if_pos hfits, seek_eq_some_iff.2 ⟨i, hi⟩]
    exact h

end Highlight.Pattern
