/-
Places of a text by their offset: the position that belongs to an offset,
the text between two offsets, and the rest of the line from an offset on.

`Position.after_origin_take` is the bridge to cursors: a walk over the
first `o` characters of a text leads to the position at `o`.
-/
import Highlight.Text.Position
import Mathlib.Data.List.DropRight

namespace Highlight

namespace Text

-- ========================================================== vocabulary

/-- Where the line of an offset starts: behind the last line feed that
stands before the offset. -/
def lineStart (t : Text) (o : Nat) : Nat :=
  ((t.take o).rdropWhile (· != '\n')).length

/-- The position at an offset: the row is the number of line feeds before
it, the column its distance from the start of the line. -/
def positionAt (t : Text) (o : Nat) : Position where
  row := lineFeeds (t.take o)
  col := o - lineStart t o
  offset := o

/-- The text between two offsets. -/
def slice (t : Text) (start stop : Nat) : Text :=
  (t.take stop).drop start

/-- The rest of the line from an offset on. -/
def restAt (t : Text) (o : Nat) : Text := firstLine (t.drop o)

-- ============================================================== slices

theorem slice_eq_take_drop (t : Text) (o n : Nat) :
    slice t o (o + n) = (t.drop o).take n := by
  unfold slice
  rw [List.take_add, List.drop_append, List.length_take]
  rcases Nat.le_total o t.length with h | h
  · rw [Nat.min_eq_left h, Nat.sub_self, List.drop_of_length_le
      (by rw [List.length_take_of_le h])]
    rfl
  · rw [List.drop_of_length_le h]
    simp

theorem length_slice {t : Text} {o n : Nat} (h : o + n ≤ t.length) :
    (slice t o (o + n)).length = n := by
  rw [slice_eq_take_drop, List.length_take, List.length_drop]
  omega

theorem take_append_slice (t : Text) (o n : Nat) :
    t.take o ++ slice t o (o + n) = t.take (o + n) := by
  rw [slice_eq_take_drop, List.take_add]

/-- The first characters of a line's rest are those of the text. -/
theorem take_restAt {t : Text} {o n : Nat} (h : n ≤ (restAt t o).length) :
    (restAt t o).take n = slice t o (o + n) := by
  rw [slice_eq_take_drop]
  have hsplit := firstLine_append_afterFirstLine (t.drop o)
  conv_rhs => rw [← hsplit]
  exact (List.take_append_of_le_length h).symm

theorem lineFeed_not_mem_firstLine (t : Text) : '\n' ∉ firstLine t := by
  obtain ⟨ls, hls⟩ := lines_eq_cons t
  exact lineFeed_not_mem_of_mem_lines (t := t)
    (by rw [hls]; exact List.mem_cons_self)

-- =========================================================== positions

theorem positionAt_zero (t : Text) : positionAt t 0 = .origin := by
  simp [positionAt, Position.origin, lineFeeds]

theorem lineFeeds_append (s t : Text) :
    lineFeeds (s ++ t) = lineFeeds s + lineFeeds t :=
  List.count_append

end Text

namespace Position

open Text

/-- The column behind a text that was walked over from the start is the
length of its last line. -/
theorem after_origin (u : Text) :
    Position.origin.after u
      = ⟨u.lineFeeds, (u.rtakeWhile (· != '\n')).length, u.length⟩ := by
  induction u using List.reverseRecOn with
  | nil => rfl
  | append_singleton u c ih =>
      rw [after_append, ih, after_cons, after_nil, lineFeeds_append]
      by_cases hc : c = '\n'
      · subst hc
        rw [List.rtakeWhile_concat_neg _ _ _ (by simp)]
        simp [next, lineFeeds]
      · rw [List.rtakeWhile_concat_pos _ _ _ (by simpa using hc)]
        simp [next, lineFeeds, hc]

/-- A walk over the first characters of a text leads to the position at
their number. -/
theorem after_origin_take {t : Text} {o : Nat} (h : o ≤ t.length) :
    Position.origin.after (t.take o) = t.positionAt o := by
  have hsplit := congrArg List.length
    (List.rdropWhile_append_rtakeWhile (p := (· != '\n')) (l := t.take o))
  rw [List.length_append, List.length_take_of_le h] at hsplit
  rw [after_origin, List.length_take_of_le h]
  unfold positionAt lineStart
  congr 1
  omega

/-- A walk from one offset leads to the position at the next. -/
theorem after_positionAt {t : Text} {o n : Nat} (h : o + n ≤ t.length) :
    (t.positionAt o).after ((t.drop o).take n) = t.positionAt (o + n) := by
  rw [← after_origin_take h, ← after_origin_take (by omega),
    ← after_append, List.take_add]

end Position

end Highlight
