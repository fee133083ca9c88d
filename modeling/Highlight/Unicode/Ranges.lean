/-
Sets of code points as ascending lists of closed ranges. A look-up stops
at the first range that begins beyond the code point, so common
characters are decided by the first few ranges.
-/

namespace Highlight.Unicode

/-- Closed ranges of code points, in ascending order. -/
abbrev Ranges := List (Nat × Nat)

/-- Whether a code point lies in one of the ranges. -/
def Ranges.mem : Ranges → Nat → Bool
  | [], _ => false
  | (lo, hi) :: more, n =>
    if n < lo then false else n ≤ hi || Ranges.mem more n

/-- A look-up finds only what one of the ranges holds. -/
theorem Ranges.exists_of_mem {rs : Ranges} {n : Nat}
    (h : rs.mem n = true) : ∃ r ∈ rs, r.1 ≤ n ∧ n ≤ r.2 := by
  induction rs with
  | nil => simp [Ranges.mem] at h
  | cons r more ih =>
    obtain ⟨lo, hi⟩ := r
    simp only [Ranges.mem] at h
    split at h
    · cases h
    · rcases Bool.or_eq_true _ _ ▸ h with h | h
      · exact ⟨(lo, hi), by simp, by omega, by simpa using h⟩
      · obtain ⟨r, hr, hn⟩ := ih h
        exact ⟨r, by simp [hr], hn⟩

end Highlight.Unicode
