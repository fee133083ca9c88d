/-
The line of an offset and the columns in it, counted in characters and in
16-bit units.

Within a line both grow with the text between (`column16_add`); across a
line feed they begin anew. The row found by counting line feeds is the
line that the text is cut into (`getElem?_lines`).
-/
import Highlight.Text.Position
import Highlight.Proofs.Text.Offset

namespace Highlight.Text

variable {t : Text}

-- ========================================================== vocabulary

/-- The column of an offset in 16-bit units. -/
def column16 (t : Text) (o : Nat) : Nat :=
  units16 (slice t (lineStart t o) o)

-- =============================================================== lines

/-- A line feed cuts a text into the lines on either side. -/
theorem lines_append_lineFeed_append (s r : Text) :
    lines (s ++ '\n' :: r) = lines s ++ lines r := by
  induction s with
  | nil => exact lines_lineFeed r
  | cons c s ih =>
      by_cases hc : c = '\n'
      · subst hc
        rw [List.cons_append, lines_lineFeed, lines_lineFeed, ih,
          List.cons_append]
      · obtain ⟨ls, hls⟩ := lines_eq_cons s
        simp only [lines] at ih hls
        rw [hls] at ih
        simp only [lines, List.cons_append, cut, hc, ↓reduceIte, ih, hls]

/-- The line on which a prefix ends: what stands behind its last line feed,
and the first line of what follows. -/
theorem getElem?_lines (s r : Text) :
    (lines (s ++ r))[lineFeeds s]?
      = some (s.rtakeWhile (· != '\n') ++ firstLine r) := by
  induction s using List.reverseRecOn generalizing r with
  | nil =>
      obtain ⟨ls, hls⟩ := lines_eq_cons r
      rw [List.nil_append, hls]
      rfl
  | append_singleton s c ih =>
      rw [List.append_assoc, List.singleton_append, lineFeeds_append]
      by_cases hc : c = '\n'
      · subst hc
        obtain ⟨ls, hls⟩ := lines_eq_cons r
        have hlen := length_lines s
        rw [lines_append_lineFeed_append, List.rtakeWhile_concat_neg _ _ _
            (by simp), hls,
          List.getElem?_append_right (by simp [hlen, lineFeeds])]
        simp [hlen, lineFeeds]
      · rw [List.rtakeWhile_concat_pos _ _ _ (by simpa using hc)]
        have hfirst : firstLine (c :: r) = c :: firstLine r := by
          unfold firstLine
          exact List.takeWhile_cons_of_pos (by simpa using hc)
        have hcount : lineFeeds [c] = 0 := by simp [lineFeeds, hc]
        rw [hcount, Nat.add_zero, ih, hfirst, List.append_assoc,
          List.singleton_append]

/-- The start of the line and what stands between it and the offset. -/
theorem slice_lineStart (t : Text) (o : Nat) :
    slice t (lineStart t o) o = (t.take o).rtakeWhile (· != '\n') := by
  have hsplit := List.rdropWhile_append_rtakeWhile
    (p := (· != '\n')) (l := t.take o)
  have hdrop := @List.drop_left _
    ((t.take o).rdropWhile (· != '\n')) ((t.take o).rtakeWhile (· != '\n'))
  rw [hsplit] at hdrop
  exact hdrop

theorem length_rtakeWhile {o : Nat} (h : o ≤ t.length) :
    ((t.take o).rtakeWhile (· != '\n')).length = (positionAt t o).col := by
  have := congrArg Position.col (Position.after_origin_take h)
  rw [Position.after_origin] at this
  exact this

/-- The line of an offset: the part up to the offset and the rest. -/
theorem line_of_offset (t : Text) (o : Nat) :
    (lines t)[(positionAt t o).row]?
      = some (slice t (lineStart t o) o ++ restAt t o) := by
  have hline := getElem?_lines (t.take o) (t.drop o)
  rw [List.take_append_drop] at hline
  rw [slice_lineStart]
  exact hline

/-- An offset before the end of its line has a column in that line. -/
theorem exists_col_lt {o : Nat} (ho : o ≤ t.length)
    (hrest : restAt t o ≠ []) :
    ∃ line, (lines t)[(positionAt t o).row]? = some line
      ∧ (positionAt t o).col < line.length := by
  refine ⟨_, line_of_offset t o, ?_⟩
  have hlen := List.length_pos_iff.2 hrest
  rw [List.length_append, slice_lineStart, length_rtakeWhile ho]
  omega

/-- The part of the line before an offset, by its column. -/
theorem take_col {o : Nat} (h : o ≤ t.length) :
    (slice t (lineStart t o) o ++ restAt t o).take (positionAt t o).col
      = slice t (lineStart t o) o := by
  rw [List.take_append_of_le_length, List.take_of_length_le]
  · rw [slice_lineStart, length_rtakeWhile h]
  · rw [slice_lineStart, length_rtakeWhile h]

-- ============================================================= columns

theorem rtakeWhile_append_of_not_mem {s u : Text} (h : '\n' ∉ u) :
    (s ++ u).rtakeWhile (· != '\n') = s.rtakeWhile (· != '\n') ++ u := by
  induction u using List.reverseRecOn with
  | nil => simp
  | append_singleton u c ih =>
      rw [List.mem_append, List.mem_singleton, not_or] at h
      rw [← List.append_assoc, List.rtakeWhile_concat_pos _ _ _
        (by simpa using fun e : c = '\n' => h.2 e.symm), ih h.1,
        List.append_assoc]

/-- Within a line the row stays. -/
theorem row_add {o n : Nat} (hn : '\n' ∉ slice t o (o + n)) :
    (positionAt t (o + n)).row = (positionAt t o).row := by
  show lineFeeds (t.take (o + n)) = lineFeeds (t.take o)
  rw [← take_append_slice, lineFeeds_append]
  have : lineFeeds (slice t o (o + n)) = 0 := List.count_eq_zero.2 hn
  omega

/-- Within a line the column grows with the text between. -/
theorem column16_add {o n : Nat} (hn : '\n' ∉ slice t o (o + n)) :
    column16 t (o + n) = column16 t o + units16 (slice t o (o + n)) := by
  unfold column16
  rw [slice_lineStart, slice_lineStart, ← take_append_slice,
    rtakeWhile_append_of_not_mem hn, units16_append]

theorem row_mono {o n : Nat} :
    (positionAt t o).row ≤ (positionAt t (o + n)).row := by
  show lineFeeds (t.take o) ≤ lineFeeds (t.take (o + n))
  rw [← take_append_slice, lineFeeds_append]
  exact Nat.le_add_right _ _

/-- Two offsets of one row have no line feed between them. -/
theorem not_mem_slice_of_row_eq {o n : Nat}
    (h : (positionAt t (o + n)).row = (positionAt t o).row) :
    '\n' ∉ slice t o (o + n) := by
  have h' : lineFeeds (t.take (o + n)) = lineFeeds (t.take o) := h
  rw [← take_append_slice, lineFeeds_append] at h'
  exact List.count_eq_zero.1 (by unfold lineFeeds at h'; omega)

theorem units16_pos {s : Text} (h : s ≠ []) : 0 < units16 s := by
  cases s with
  | nil => exact absurd rfl h
  | cons c s =>
      have := unitsOf_pos c
      simp only [units16]
      omega

end Highlight.Text
