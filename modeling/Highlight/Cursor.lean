/-
A cursor walks through the lines of a text. It knows the row and the
column where it stands and counts the characters it has passed.

The row and the column are moved line by line: what does not fit in the
rest of a line is carried over, less one for the line feed, to the start
of the next. A walk fails when it is carried past the last line.

# The text ahead

`Cursor.ahead` is the text from the cursor on. It says all that can be
asked of a cursor: a walk of `n` characters drops `n` characters of it
(`ahead_of_advance?`), succeeds just when there are as many
(`advance?_isSome_iff`), and leads to the position behind them
(`position_of_advance?`).
-/
import Highlight.Text.Position

namespace Highlight

structure Cursor where
  /-- The lines of the whole text. -/
  lines : List Text
  row : Nat
  col : Nat
  /-- How many characters were passed. -/
  offset : Nat
  lines_clean : ∀ l ∈ lines, '\n' ∉ l
  row_lt : row < lines.length
  col_le : col ≤ lines[row].length

namespace Cursor

/-- A cursor at the start of a text. -/
def start (t : Text) : Cursor where
  lines := Text.lines t
  row := 0
  col := 0
  offset := 0
  lines_clean := fun _ => Text.lineFeed_not_mem_of_mem_lines
  row_lt := by rw [Text.length_lines]; exact Nat.succ_pos _
  col_le := Nat.zero_le _

def position (c : Cursor) : Position := ⟨c.row, c.col, c.offset⟩

/-- The whole line. -/
def line (c : Cursor) : Text := c.lines.get ⟨c.row, c.row_lt⟩

theorem col_le_length_line (c : Cursor) : c.col ≤ c.line.length := c.col_le

/-- The rest of the line. -/
def lineRest (c : Cursor) : Text := c.line.drop c.col

/-- The character at the cursor; behind a line it is the line feed. -/
def char (c : Cursor) : Char := c.line[c.col]?.getD '\n'

/-- Whether no line follows. -/
def onLastLine (c : Cursor) : Bool := c.row == c.lines.length - 1

/-- The character at the cursor, unless the text ends here. -/
def char? (c : Cursor) : Option Char :=
  if c.onLastLine && c.col == c.line.length then none else some c.char

-- ============================================================ walking

/-- The start of the next line. The characters passed are not counted. -/
def nextLine? (c : Cursor) : Option Cursor :=
  if h : c.row + 1 < c.lines.length then
    some { c with
      row := c.row + 1, col := 0, row_lt := h, col_le := Nat.zero_le _ }
  else none

/-- Moves the row and the column some characters on. -/
def cross? (m : Nat) (c : Cursor) : Option Cursor :=
  if h : m ≤ c.line.length - c.col then
    some { c with
      col := c.col + m
      col_le := Nat.add_le_of_le_sub' c.col_le_length_line h }
  else
    match c.nextLine? with
    | none => none
    | some d => cross? (m - (c.line.length - c.col + 1)) d
termination_by m

/-- The cursor `n` characters on. -/
def advance? (n : Nat) (c : Cursor) : Option Cursor :=
  (c.cross? n).map fun d => { d with offset := c.offset + n }

-- ====================================================== the text ahead

/-- The text from the cursor on. -/
def ahead (c : Cursor) : Text :=
  c.lineRest ++ Text.below (c.lines.drop (c.row + 1))

theorem ahead_start (t : Text) : (start t).ahead = t := by
  obtain ⟨ls, hls⟩ := Text.lines_eq_cons t
  have h := Text.firstLine_append_below hls
  simp only [ahead, lineRest, line, start, List.get_eq_getElem, hls,
    List.getElem_cons_zero, List.drop_zero, List.drop_succ_cons]
  exact h

theorem lineFeed_not_mem_lineRest (c : Cursor) : '\n' ∉ c.lineRest :=
  fun h => c.lines_clean _ (List.getElem_mem c.row_lt)
    (List.mem_of_mem_drop h)

theorem length_lineRest (c : Cursor) :
    c.lineRest.length = c.line.length - c.col :=
  List.length_drop

theorem nextLine?_eq_some_iff {c d : Cursor} :
    c.nextLine? = some d ↔
      d.lines = c.lines ∧ d.row = c.row + 1 ∧ d.col = 0
        ∧ d.offset = c.offset := by
  unfold nextLine?
  constructor
  · intro h
    split at h
    · cases h
      exact ⟨rfl, rfl, rfl, rfl⟩
    · cases h
  · rintro ⟨hl, hr, hc, ho⟩
    have hlt : c.row + 1 < c.lines.length := by
      rw [← hr, ← hl]
      exact d.row_lt
    rw [dif_pos hlt]
    obtain ⟨lines, row, col, offset, _, _, _⟩ := d
    simp only at hl hr hc ho
    subst hl hr hc ho
    rfl

/-- Without a next line the rest of the line is all there is. -/
theorem ahead_of_nextLine?_eq_none {c : Cursor} (h : c.nextLine? = none) :
    c.ahead = c.lineRest := by
  unfold nextLine? at h
  split at h
  · cases h
  next hn =>
    unfold ahead
    rw [List.drop_of_length_le (Nat.le_of_not_lt hn)]
    exact List.append_nil _

/-- With a next line, it follows behind a line feed. -/
theorem ahead_of_nextLine?_eq_some {c d : Cursor}
    (h : c.nextLine? = some d) :
    c.ahead = c.lineRest ++ '\n' :: d.ahead := by
  obtain ⟨hl, hr, hc, -⟩ := nextLine?_eq_some_iff.1 h
  have hlt : c.row + 1 < c.lines.length := by
    rw [← hr, ← hl]
    exact d.row_lt
  unfold ahead lineRest line
  rw [List.drop_eq_getElem_cons hlt]
  simp only [List.get_eq_getElem, hl, hr, hc, List.drop_zero,
    Text.below_cons]

/-- The two ways in which the text ahead can begin. -/
theorem ahead_cases (c : Cursor) :
    (c.nextLine? = none ∧ c.ahead = c.lineRest)
      ∨ ∃ d, c.nextLine? = some d
        ∧ c.ahead = c.lineRest ++ '\n' :: d.ahead := by
  cases h : c.nextLine? with
  | none => exact Or.inl ⟨rfl, ahead_of_nextLine?_eq_none h⟩
  | some d => exact Or.inr ⟨d, rfl, ahead_of_nextLine?_eq_some h⟩

theorem lineRest_eq_firstLine (c : Cursor) :
    c.lineRest = Text.firstLine c.ahead := by
  rcases c.ahead_cases with ⟨-, h⟩ | ⟨d, -, h⟩
  · rw [h, Text.firstLine_of_not_mem c.lineFeed_not_mem_lineRest]
  · rw [h, Text.firstLine_append_lineFeed c.lineFeed_not_mem_lineRest]

theorem onLastLine_iff (c : Cursor) :
    c.onLastLine = true ↔ c.nextLine? = none := by
  have := c.row_lt
  unfold onLastLine nextLine?
  rw [beq_iff_eq]
  split
  · simp only [reduceCtorEq, iff_false]
    omega
  · simp only [iff_true]
    omega

theorem head?_ahead (c : Cursor) (h : c.ahead ≠ []) :
    c.ahead.head? = some c.char := by
  have hrest : c.lineRest.head? = c.line[c.col]? := List.head?_drop
  unfold char
  cases hl : c.lineRest with
  | cons x r =>
    rw [← hrest, hl]
    rcases c.ahead_cases with ⟨-, ha⟩ | ⟨d, -, ha⟩ <;> rw [ha, hl] <;> rfl
  | nil =>
    rw [← hrest, hl]
    rcases c.ahead_cases with ⟨-, ha⟩ | ⟨d, -, ha⟩
    · exact absurd (ha.trans hl) h
    · rw [ha, hl]
      rfl

-- ====================================================== where it leads

/-- What moving leaves alone, and how far it comes. -/
theorem cross?_eq_some {m : Nat} {c d : Cursor} (h : c.cross? m = some d) :
    m ≤ c.ahead.length ∧ d.ahead = c.ahead.drop m
      ∧ ∀ k, (⟨d.row, d.col, k + m⟩ : Position)
          = (⟨c.row, c.col, k⟩ : Position).after (c.ahead.take m) := by
  fun_induction cross? m c with
  | case1 m c hm =>
    cases h
    have hle : m ≤ c.lineRest.length := by
      rw [length_lineRest]
      exact hm
    have htake : c.ahead.take m = c.lineRest.take m :=
      List.take_append_of_le_length hle
    have hclean : '\n' ∉ c.lineRest.take m :=
      fun hc => c.lineFeed_not_mem_lineRest (List.mem_of_mem_take hc)
    refine ⟨?_, ?_, fun k => ?_⟩
    · unfold ahead
      rw [List.length_append]
      omega
    · show (c.line.drop (c.col + m)) ++ _ = _
      unfold ahead
      rw [List.drop_append_of_le_length hle, lineRest, List.drop_drop]
    · rw [htake, Position.after_of_not_mem _ hclean,
        List.length_take_of_le hle]
  | case2 => cases h
  | case3 m c hm e he ih =>
    obtain ⟨hle, hdrop, hpos⟩ := ih h
    obtain ⟨-, hr, hc, -⟩ := nextLine?_eq_some_iff.1 he
    have ha := ahead_of_nextLine?_eq_some he
    have hlen := c.length_lineRest
    -- the characters to pass: the rest of the line, its end, and the others
    obtain ⟨j, rfl⟩ : ∃ j, m = c.lineRest.length + (1 + j) :=
      ⟨m - c.lineRest.length - 1, by omega⟩
    have hj : c.lineRest.length + (1 + j) - (c.line.length - c.col + 1)
        = j := by
      omega
    rw [hj] at hle hdrop hpos
    refine ⟨?_, ?_, fun k => ?_⟩
    · rw [ha, List.length_append, List.length_cons]
      omega
    · rw [ha, List.drop_append, List.drop_of_length_le (by omega), hdrop,
        Nat.add_sub_cancel_left, Nat.add_comm 1 j]
      rfl
    · have hp := hpos (k + c.lineRest.length + 1)
      rw [ha, List.take_append, List.take_of_length_le (by omega),
        Nat.add_sub_cancel_left, Nat.add_comm 1 j, List.take_succ_cons,
        Position.after_append, Position.after_cons,
        Position.after_of_not_mem _ c.lineFeed_not_mem_lineRest]
      rw [hr, hc] at hp
      have hk : k + (c.lineRest.length + (j + 1))
          = k + c.lineRest.length + 1 + j := by omega
      rw [hk, hp]
      rfl

theorem cross?_isSome_iff (m : Nat) (c : Cursor) :
    (c.cross? m).isSome ↔ m ≤ c.ahead.length := by
  fun_induction cross? m c with
  | case1 m c hm =>
    have := c.length_lineRest
    simp only [Option.isSome_some, true_iff]
    unfold ahead
    rw [List.length_append]
    omega
  | case2 m c hm hn =>
    have := c.length_lineRest
    rw [ahead_of_nextLine?_eq_none hn]
    simp only [Option.isSome_none, Bool.false_eq_true, false_iff]
    omega
  | case3 m c hm e he ih =>
    have := c.length_lineRest
    rw [ih, ahead_of_nextLine?_eq_some he, List.length_append,
      List.length_cons]
    omega

/-- A walk fails just when it is longer than the text ahead. -/
theorem advance?_isSome_iff (n : Nat) (c : Cursor) :
    (c.advance? n).isSome ↔ n ≤ c.ahead.length := by
  unfold advance?
  rw [Option.isSome_map]
  exact cross?_isSome_iff n c

theorem ahead_of_advance? {n : Nat} {c d : Cursor}
    (h : c.advance? n = some d) : d.ahead = c.ahead.drop n := by
  obtain ⟨e, he, rfl⟩ := Option.map_eq_some_iff.1 h
  exact (cross?_eq_some he).2.1

theorem offset_of_advance? {n : Nat} {c d : Cursor}
    (h : c.advance? n = some d) : d.offset = c.offset + n := by
  obtain ⟨e, -, rfl⟩ := Option.map_eq_some_iff.1 h
  rfl

/-- On another line than the last, the walk over the rest of the line and
its end leads to the start of the next one. -/
theorem ahead_of_advance?_line {c d : Cursor} (hl : ¬ c.onLastLine = true)
    (h : c.advance? (c.lineRest.length + 1) = some d) :
    c.ahead = c.lineRest ++ '\n' :: d.ahead := by
  rcases c.ahead_cases with ⟨hn, -⟩ | ⟨e, -, ha⟩
  · exact absurd (c.onLastLine_iff.2 hn) hl
  · rw [ahead_of_advance? h, ha, List.drop_append, Nat.add_sub_cancel_left,
      List.drop_of_length_le (Nat.le_succ _)]
    rfl

theorem length_ahead_of_advance? {n : Nat} {c d : Cursor}
    (h : c.advance? n = some d) : d.ahead.length + n = c.ahead.length := by
  have hle := (advance?_isSome_iff n c).1 (by rw [h]; rfl)
  rw [ahead_of_advance? h, List.length_drop]
  omega

/-- A walk reaches the position behind the text that it passes. -/
theorem position_of_advance? {n : Nat} {c d : Cursor}
    (h : c.advance? n = some d) :
    d.position = c.position.after (c.ahead.take n) := by
  obtain ⟨e, he, rfl⟩ := Option.map_eq_some_iff.1 h
  exact (cross?_eq_some he).2.2 c.offset

theorem lines_of_cross? {m : Nat} {c d : Cursor} (h : c.cross? m = some d) :
    d.lines = c.lines := by
  fun_induction cross? m c with
  | case1 =>
    cases h
    rfl
  | case2 => cases h
  | case3 m c _ e he ih =>
    rw [ih h, (nextLine?_eq_some_iff.1 he).1]

theorem lines_of_advance? {n : Nat} {c d : Cursor}
    (h : c.advance? n = some d) : d.lines = c.lines := by
  obtain ⟨e, he, rfl⟩ := Option.map_eq_some_iff.1 h
  show e.lines = c.lines
  exact lines_of_cross? he

/-- A cursor is known by its lines and its position. -/
theorem eq_of_position_eq {c d : Cursor} (hl : c.lines = d.lines)
    (hp : c.position = d.position) : c = d := by
  obtain ⟨lines, row, col, offset, _, _, _⟩ := c
  obtain ⟨lines', row', col', offset', _, _, _⟩ := d
  simp only [position, Position.mk.injEq] at hl hp
  obtain ⟨hr, hc, ho⟩ := hp
  subst hl hr hc ho
  rfl

/-- Where a walk leads depends on its length alone. -/
theorem advance?_add (m n : Nat) (c : Cursor) :
    c.advance? (m + n) = (c.advance? m).bind (advance? n) := by
  cases hm : c.advance? m with
  | none =>
    have h : ¬ (c.advance? (m + n)).isSome := by
      have hm' : ¬ (c.advance? m).isSome := by rw [hm]; exact nofun
      rw [advance?_isSome_iff] at hm' ⊢
      omega
    simpa using h
  | some d =>
    have hlen := length_ahead_of_advance? hm
    rw [Option.bind_some]
    cases hn : d.advance? n with
    | none =>
      have h : ¬ (c.advance? (m + n)).isSome := by
        have hn' : ¬ (d.advance? n).isSome := by rw [hn]; exact nofun
        rw [advance?_isSome_iff] at hn' ⊢
        omega
      simpa using h
    | some e =>
      have hlen' := length_ahead_of_advance? hn
      obtain ⟨e', he'⟩ := Option.isSome_iff_exists.1
        ((advance?_isSome_iff (m + n) c).2 (by omega))
      rw [he']
      refine congrArg some (eq_of_position_eq ?_ ?_)
      · rw [lines_of_advance? he', lines_of_advance? hn,
          lines_of_advance? hm]
      · rw [position_of_advance? he', position_of_advance? hn,
          position_of_advance? hm, ahead_of_advance? hm, List.take_add,
          Position.after_append]

end Cursor

end Highlight
