/-
Texts whose lines end with a carriage return and a line feed.

Only the line feed ends a line here, so the carriage return becomes the
last character of every line but the last (`firstLine_withReturns`,
`lines_withReturns`). Rows and columns of all other characters stay where
they are (`position_returnedOffset`), and a line grows by one unit
(`lineUnits_withReturns`).

Where newlines are unified, as they are in text that is read from a file,
nothing is left of the carriage returns (`unifyNewlines_withReturns`).
-/
import Highlight.Proofs.Text.Column
import Mathlib.Algebra.Ring.Nat

namespace Highlight.Text

-- ========================================================== vocabulary

/-- The text with a carriage return in front of every line feed. -/
def withReturns (t : Text) : Text :=
  t.flatMap fun c => if c = '\n' then ['\r', '\n'] else [c]

/-- Lines with a carriage return behind each but the last. -/
def returned : List Text → List Text
  | [] => []
  | [line] => [line]
  | line :: next :: more => (line ++ ['\r']) :: returned (next :: more)

/-- The offset in the text with carriage returns that belongs to an
offset. -/
def returnedOffset (t : Text) (o : Nat) : Nat :=
  (withReturns (t.take o)).length

/-- The length of all lines, in 16-bit units. -/
def lineUnits (t : Text) : Nat :=
  units16 (t.filter (· != '\n'))

variable {s t : Text}

-- ================================================================ texts

/-- Carriage returns are put in piece by piece. -/
theorem withReturns_append (s t : Text) :
    withReturns (s ++ t) = withReturns s ++ withReturns t :=
  List.flatMap_append

theorem withReturns_lineFeed (t : Text) :
    withReturns ('\n' :: t) = '\r' :: '\n' :: withReturns t := rfl

/-- Only a line feed gets a carriage return. -/
theorem withReturns_cons {c : Char} (hc : c ≠ '\n') (t : Text) :
    withReturns (c :: t) = c :: withReturns t := by
  unfold withReturns
  rw [List.flatMap_cons, if_neg hc]
  rfl

/-- A text of one line has none put in. -/
theorem withReturns_of_not_mem (h : '\n' ∉ t) : withReturns t = t := by
  induction t with
  | nil => rfl
  | cons c t ih =>
      rw [List.mem_cons, not_or] at h
      rw [withReturns_cons (Ne.symm h.1), ih h.2]

/-- A carriage return comes in with a line feed. -/
theorem return_mem_withReturns (h : '\r' ∉ t) :
    '\r' ∈ withReturns t ↔ '\n' ∈ t := by
  constructor
  · intro hr
    by_contra hn
    rw [withReturns_of_not_mem hn] at hr
    exact h hr
  · intro hn
    exact List.mem_flatMap.2 ⟨'\n', hn, List.mem_cons_self⟩

/-- A text is one line, or a line, a line feed and another text. -/
theorem line_induction {motive : Text → Prop}
    (last : ∀ l, '\n' ∉ l → motive l)
    (more : ∀ l r, '\n' ∉ l → motive r → motive (l ++ '\n' :: r))
    (t : Text) : motive t := by
  induction hn : t.length using Nat.strongRecOn generalizing t with
  | ind n ih =>
      by_cases hfeed : '\n' ∈ t
      · obtain ⟨l, r, rfl, hl⟩ := List.eq_append_cons_of_mem hfeed
        refine more l r hl (ih _ ?_ r rfl)
        rw [← hn, List.length_append, List.length_cons]
        omega
      · exact last t hfeed

/-- A line, its carriage return and its line feed. -/
theorem withReturns_append_lineFeed {l : Text} (hl : '\n' ∉ l) (r : Text) :
    withReturns (l ++ '\n' :: r)
      = l ++ ['\r'] ++ '\n' :: withReturns r := by
  rw [withReturns_append, withReturns_of_not_mem hl, withReturns_lineFeed,
    List.append_assoc]
  rfl

/-- What is unified is the text without the carriage returns. -/
theorem unifyNewlines_withReturns (h : '\r' ∉ t) :
    unifyNewlines (withReturns t) = t := by
  induction t with
  | nil => rfl
  | cons c t ih =>
      rw [List.mem_cons, not_or] at h
      by_cases hc : c = '\n'
      · subst hc
        rw [withReturns_lineFeed, unifyNewlines, ih h.2]
      · rw [withReturns_cons hc, unifyNewlines, if_neg (Ne.symm h.1), ih h.2]
        exact fun _ hr => absurd hr.symm h.1

-- ================================================================ lines

/-- The rest of a line that another one follows gets a carriage return. -/
theorem firstLine_withReturns (t : Text) :
    firstLine (withReturns t)
      = if '\n' ∈ t then firstLine t ++ ['\r'] else t := by
  split
  · next h =>
    obtain ⟨l, r, rfl, hl⟩ := List.eq_append_cons_of_mem h
    rw [withReturns_append_lineFeed hl, firstLine_append_lineFeed hl,
      firstLine_append_lineFeed]
    rw [List.mem_append, not_or]
    exact ⟨hl, by decide⟩
  · next h => rw [withReturns_of_not_mem h, firstLine_of_not_mem h]

/-- All lines but the last end with a carriage return then. -/
theorem lines_withReturns (t : Text) :
    lines (withReturns t) = returned (lines t) := by
  induction t using line_induction with
  | last l hl =>
      rw [withReturns_of_not_mem hl, lines_of_not_mem hl]
      rfl
  | more l r hl ih =>
      have hl' : '\n' ∉ l ++ ['\r'] := by
        rw [List.mem_append, not_or]
        exact ⟨hl, by decide⟩
      obtain ⟨ls, hls⟩ := lines_eq_cons r
      rw [withReturns_append_lineFeed hl, lines_append_lineFeed _ hl',
        lines_append_lineFeed _ hl, ih, hls]
      rfl

/-- No line begins or ends anywhere else. -/
theorem lineFeeds_withReturns (t : Text) :
    lineFeeds (withReturns t) = lineFeeds t := by
  unfold lineFeeds
  induction t with
  | nil => rfl
  | cons c t ih =>
      by_cases hc : c = '\n'
      · subst hc
        rw [withReturns_lineFeed, List.count_cons_of_ne (by decide),
          List.count_cons_self, List.count_cons_self, ih]
      · rw [withReturns_cons hc, List.count_cons_of_ne hc,
          List.count_cons_of_ne hc, ih]

/-- What has been read of the current line is the same. -/
theorem rtakeWhile_withReturns (t : Text) :
    (withReturns t).rtakeWhile (· != '\n') = t.rtakeWhile (· != '\n') := by
  induction t using List.reverseRecOn with
  | nil => rfl
  | append_singleton t c ih =>
      rw [withReturns_append]
      by_cases hc : c = '\n'
      · subst hc
        show (withReturns t ++ (['\r'] ++ ['\n'])).rtakeWhile _ = _
        rw [← List.append_assoc, List.rtakeWhile_concat_neg _ _ _ (by simp),
          List.rtakeWhile_concat_neg _ _ _ (by simp)]
      · rw [withReturns_cons hc]
        show (withReturns t ++ [c]).rtakeWhile _ = _
        rw [List.rtakeWhile_concat_pos _ _ _ (by simpa using hc),
          List.rtakeWhile_concat_pos _ _ _ (by simpa using hc), ih]

-- ================================================================ units

/-- The units of two pieces add up. -/
theorem lineUnits_append (s t : Text) :
    lineUnits (s ++ t) = lineUnits s + lineUnits t := by
  unfold lineUnits
  rw [List.filter_append, units16_append]

/-- In a text of one line all units count. -/
theorem lineUnits_of_not_mem (h : '\n' ∉ t) : lineUnits t = units16 t := by
  have hall : ∀ c ∈ t, (c != '\n') = true := by
    intro c hc
    rw [bne_iff_ne]
    rintro rfl
    exact h hc
  unfold lineUnits
  rw [List.filter_eq_self.2 hall]

/-- The lines of a text, one by one. -/
theorem sum_units16_lines (t : Text) :
    ((lines t).map units16).sum = lineUnits t := by
  induction t using line_induction with
  | last l hl =>
      rw [lines_of_not_mem hl, lineUnits_of_not_mem hl]
      exact Nat.add_zero _
  | more l r hl ih =>
      rw [lines_append_lineFeed r hl, List.map_cons, List.sum_cons, ih,
        lineUnits_append, lineUnits_of_not_mem hl]
      rfl

/-- Every line feed makes a line longer by a unit. -/
theorem lineUnits_withReturns (t : Text) :
    lineUnits (withReturns t) = lineUnits t + lineFeeds t := by
  induction t using line_induction with
  | last l hl =>
      rw [withReturns_of_not_mem hl, lineFeeds, List.count_eq_zero.2 hl]
      rfl
  | more l r hl ih =>
      have hfeeds : lineFeeds (l ++ '\n' :: r) = lineFeeds r + 1 := by
        unfold lineFeeds
        rw [List.count_append, List.count_eq_zero.2 hl, List.count_cons_self,
          Nat.zero_add]
      have hmore : ∀ r, lineUnits ('\n' :: r) = lineUnits r := fun r => rfl
      rw [withReturns_append_lineFeed hl, hfeeds, lineUnits_append,
        lineUnits_append, lineUnits_append, hmore, hmore, ih]
      show lineUnits l + 1 + _ = _
      omega

-- ============================================================== offsets

theorem withReturns_take_append_drop (t : Text) (o : Nat) :
    withReturns (t.take o) ++ withReturns (t.drop o) = withReturns t := by
  rw [← withReturns_append, List.take_append_drop]

/-- The rest at a corresponding offset is the rest with carriage returns.
-/
theorem drop_returnedOffset (t : Text) (o : Nat) :
    (withReturns t).drop (returnedOffset t o) = withReturns (t.drop o) := by
  rw [← withReturns_take_append_drop t o]
  exact List.drop_left

/-- So is what lies before it. -/
theorem take_returnedOffset (t : Text) (o : Nat) :
    (withReturns t).take (returnedOffset t o) = withReturns (t.take o) := by
  rw [← withReturns_take_append_drop t o]
  exact List.take_left

/-- A piece of the text is longer by its carriage returns. -/
theorem returnedOffset_add (t : Text) (o n : Nat) :
    returnedOffset t (o + n)
      = returnedOffset t o + (withReturns ((t.drop o).take n)).length := by
  unfold returnedOffset
  rw [List.take_add, withReturns_append, List.length_append]

/-- The ends of both texts correspond. -/
theorem returnedOffset_length (t : Text) :
    returnedOffset t t.length = (withReturns t).length := by
  unfold returnedOffset
  rw [List.take_length]

/-- A corresponding offset lies in the text. -/
theorem returnedOffset_le (t : Text) (o : Nat) :
    returnedOffset t o ≤ (withReturns t).length := by
  rw [← withReturns_take_append_drop t o, List.length_append]
  exact Nat.le_add_right _ _

/-- What is taken of the rest of a line does not grow. -/
theorem length_withReturns_take {o n : Nat} (h : n ≤ (restAt t o).length) :
    (withReturns ((t.drop o).take n)).length = n := by
  have htake : (t.drop o).take n = (restAt t o).take n := by
    rw [take_restAt h, slice_eq_take_drop]
  have hclean : '\n' ∉ (restAt t o).take n :=
    fun hm => lineFeed_not_mem_firstLine _ (List.mem_of_mem_take hm)
  rw [htake, withReturns_of_not_mem hclean, List.length_take_of_le h]

/-- Pieces between corresponding offsets are the same but for the carriage
returns. -/
theorem slice_returnedOffset (t : Text) (o n : Nat) :
    slice (withReturns t) (returnedOffset t o) (returnedOffset t (o + n))
      = withReturns (slice t o (o + n)) := by
  rw [returnedOffset_add, slice_eq_take_drop, drop_returnedOffset,
    slice_eq_take_drop]
  conv_lhs => rw [← withReturns_take_append_drop (t.drop o) n]
  exact List.take_left

theorem drop_of_lineFeed {o : Nat} (h : t[o]? = some '\n') :
    t.drop o = '\n' :: t.drop (o + 1) := by
  obtain ⟨hlt, hget⟩ := List.getElem?_eq_some_iff.1 h
  rw [List.drop_eq_getElem_cons hlt, hget]

/-- At a line feed nothing is left of the line. -/
theorem restAt_of_lineFeed {o : Nat} (h : t[o]? = some '\n') :
    restAt t o = [] := by
  unfold restAt
  rw [drop_of_lineFeed h]
  rfl

/-- A line ends where the next line feed is. -/
theorem getElem?_length_restAt {o : Nat} (h : '\n' ∈ t.drop o) :
    t[o + (restAt t o).length]? = some '\n' := by
  obtain ⟨l, r, hdrop, hl⟩ := List.eq_append_cons_of_mem h
  unfold restAt
  rw [← List.getElem?_drop, hdrop, firstLine_append_lineFeed hl,
    List.getElem?_append_right (Nat.le_refl _), Nat.sub_self]
  rfl

/-- Where a line feed is, a carriage return comes before it. -/
theorem drop_returnedOffset_lineFeed {o : Nat} (h : t[o]? = some '\n') :
    (withReturns t).drop (returnedOffset t o)
      = '\r' :: '\n' :: withReturns (t.drop (o + 1)) := by
  rw [drop_returnedOffset, drop_of_lineFeed h, withReturns_lineFeed]

/-- A line end is two characters wide in the further text. -/
theorem returnedOffset_lineFeed {o : Nat} (h : t[o]? = some '\n') :
    returnedOffset t (o + 1) = returnedOffset t o + 2 := by
  rw [returnedOffset_add, drop_of_lineFeed h]
  rfl

/-- A slice up to the end of a line, and the carriage return there. -/
theorem slice_returnedOffset_succ {o n : Nat} (h : t[o + n]? = some '\n') :
    slice (withReturns t) (returnedOffset t o) (returnedOffset t (o + n) + 1)
      = withReturns (slice t o (o + n)) ++ ['\r'] := by
  have hrest : (withReturns t).drop (returnedOffset t o)
      = withReturns ((t.drop o).take n)
        ++ '\r' :: '\n' :: withReturns (t.drop (o + n + 1)) := by
    rw [drop_returnedOffset, ← withReturns_take_append_drop (t.drop o) n,
      List.drop_drop, drop_of_lineFeed h, withReturns_lineFeed]
  rw [returnedOffset_add, Nat.add_assoc, slice_eq_take_drop, hrest,
    slice_eq_take_drop, List.take_length_add_append]
  rfl

/-- What is left of a line ends with a carriage return, unless the line is
the last one. -/
theorem restAt_returnedOffset (t : Text) (o : Nat) :
    restAt (withReturns t) (returnedOffset t o)
      = if '\n' ∈ t.drop o then restAt t o ++ ['\r'] else restAt t o := by
  unfold restAt
  rw [drop_returnedOffset, firstLine_withReturns]
  split
  · rfl
  · next h => rw [firstLine_of_not_mem h]

/-- A character that was there has its row and its columns still. -/
theorem position_returnedOffset {o : Nat} (h : o ≤ t.length) :
    (positionAt (withReturns t) (returnedOffset t o)).row
        = (positionAt t o).row
      ∧ (positionAt (withReturns t) (returnedOffset t o)).col
        = (positionAt t o).col
      ∧ column16 (withReturns t) (returnedOffset t o) = column16 t o := by
  refine ⟨?_, ?_, ?_⟩
  · show lineFeeds ((withReturns t).take _) = lineFeeds (t.take o)
    rw [take_returnedOffset, lineFeeds_withReturns]
  · rw [← length_rtakeWhile h, ← length_rtakeWhile (returnedOffset_le t o),
      take_returnedOffset, rtakeWhile_withReturns]
  · unfold column16
    rw [slice_lineStart, slice_lineStart, take_returnedOffset,
      rtakeWhile_withReturns]

end Highlight.Text
