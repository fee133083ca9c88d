/-
Texts and their lines. A text is a list of characters, one per code
point; what is counted in other units counts over this list.

Only the line feed ends a line. A text with `n` line feeds has `n + 1`
lines, the last of which may be empty, and joining the lines with line
feeds gives the text back.
-/

namespace Highlight

/-- A text, character by character. -/
abbrev Text := List Char

namespace Text

-- ============================================================== lines

/-- A text cut at every occurrence of a character. -/
def cut (sep : Char) : Text → List Text
  | [] => [[]]
  | c :: r =>
    if c = sep then
      [] :: cut sep r
    else
      match cut sep r with
      | [] => [[c]]
      | l :: ls => (c :: l) :: ls

/-- The lines of a text, without the line feeds that end them. -/
def lines (t : Text) : List Text :=
  cut '\n' t

/-- The characters before the first line feed. -/
def firstLine (t : Text) : Text :=
  t.takeWhile (· != '\n')

/-- What follows the first line, from its line feed on. -/
def afterFirstLine (t : Text) : Text :=
  t.dropWhile (· != '\n')

/-- The text with some trailing characters of one kind cut off. -/
def trimRight (c : Char) (t : Text) : Text :=
  (t.reverse.dropWhile (· == c)).reverse

/-- How often a line ends in the text. -/
def lineFeeds (t : Text) : Nat :=
  t.count '\n'

/-- Reads a carriage return, alone or before a line feed, as a line
feed. -/
def unifyNewlines : Text → Text
  | '\r' :: '\n' :: r => '\n' :: unifyNewlines r
  | c :: r => (if c = '\r' then '\n' else c) :: unifyNewlines r
  | [] => []

/-- Lines that follow another one, each behind a line feed. -/
def below (ls : List Text) : Text :=
  ls.flatMap ('\n' :: ·)

/-- Texts in a row with a separator between neighbours. -/
def join (sep : Text) (ts : List Text) : Text :=
  List.intercalate sep ts

-- ============================================================= lemmas

theorem cut_ne_nil (sep : Char) (t : Text) : cut sep t ≠ [] := by
  cases t with
  | nil => simp [cut]
  | cons c r =>
    simp only [cut]
    split
    · simp
    · split <;> simp

/-- The pieces are one more than the cuts. -/
theorem length_cut (sep : Char) (t : Text) :
    (cut sep t).length = t.count sep + 1 := by
  induction t with
  | nil => rfl
  | cons c r ih =>
    by_cases hc : c = sep
    · simp [cut, hc, ih]
    · cases h : cut sep r with
      | nil => exact absurd h (cut_ne_nil sep r)
      | cons l ls =>
        rw [h, List.length_cons] at ih
        simp [cut, hc, h]
        omega

@[simp] theorem lines_nil : lines [] = [[]] := rfl

@[simp] theorem lines_lineFeed (r : Text) :
    lines ('\n' :: r) = [] :: lines r := by
  simp [lines, cut]

theorem lines_ne_nil (t : Text) : lines t ≠ [] :=
  cut_ne_nil '\n' t

theorem length_lines (t : Text) : (lines t).length = lineFeeds t + 1 :=
  length_cut '\n' t

/-- The first line is what stands before the first line feed. -/
theorem head?_lines (t : Text) : (lines t).head? = some (firstLine t) := by
  induction t with
  | nil => rfl
  | cons c r ih =>
    by_cases hc : c = '\n'
    · simp [firstLine, hc]
    · cases h : lines r with
      | nil => exact absurd h (lines_ne_nil r)
      | cons l ls =>
        simp only [h, List.head?_cons, Option.some.injEq] at ih
        simp only [lines] at h
        simp [lines, cut, firstLine, hc, h, ih]

@[simp] theorem below_nil : below [] = [] := rfl

@[simp] theorem below_cons (l : Text) (ls : List Text) :
    below (l :: ls) = '\n' :: (l ++ below ls) := rfl

theorem lines_eq_cons (t : Text) : ∃ ls, lines t = firstLine t :: ls := by
  have h := head?_lines t
  cases hl : lines t with
  | nil => exact absurd hl (lines_ne_nil t)
  | cons l ls =>
    rw [hl] at h
    cases h
    exact ⟨ls, rfl⟩

/-- The first line and the lines below it are the whole text. -/
theorem firstLine_append_below {t : Text} {ls : List Text}
    (h : lines t = firstLine t :: ls) : firstLine t ++ below ls = t := by
  induction t generalizing ls with
  | nil =>
    cases h
    rfl
  | cons c r ih =>
    obtain ⟨ms, hms⟩ := lines_eq_cons r
    have hr := ih hms
    by_cases hc : c = '\n'
    · subst hc
      rw [lines_lineFeed, hms] at h
      cases h
      have hf : firstLine ('\n' :: r) = [] := by simp [firstLine]
      rw [hf, below_cons, hr]
      rfl
    · have hf : firstLine (c :: r) = c :: firstLine r := by
        simp [firstLine, hc]
      simp only [lines] at hms
      simp only [lines, cut, hc, ↓reduceIte, hms, hf] at h
      cases h
      rw [hf, List.cons_append, hr]

/-- No line holds a line feed. -/
theorem lineFeed_not_mem_of_mem_lines {t l : Text} (h : l ∈ lines t) :
    '\n' ∉ l := by
  induction t generalizing l with
  | nil =>
    simp only [lines_nil, List.mem_singleton] at h
    simp [h]
  | cons c r ih =>
    obtain ⟨ls, hls⟩ := lines_eq_cons r
    by_cases hc : c = '\n'
    · subst hc
      rw [lines_lineFeed] at h
      rcases List.mem_cons.1 h with rfl | h
      · exact List.not_mem_nil
      · exact ih h
    · have hlines : lines (c :: r) = (c :: firstLine r) :: ls := by
        simp only [lines] at hls
        simp only [lines, cut, hc, ↓reduceIte, hls]
      rw [hlines] at h
      rcases List.mem_cons.1 h with rfl | h
      · have hf : '\n' ∉ firstLine r := ih (by rw [hls]; simp)
        exact fun hm => (List.mem_cons.1 hm).elim (fun e => hc e.symm) hf
      · exact ih (by rw [hls]; exact List.mem_cons_of_mem _ h)

theorem firstLine_of_not_mem {t : Text} (h : '\n' ∉ t) :
    firstLine t = t := by
  induction t with
  | nil => rfl
  | cons c r ih =>
      have hc : c ≠ '\n' := fun e => h (by simp [e])
      have hr : firstLine r = r := ih fun m => h (by simp [m])
      unfold firstLine at hr ⊢
      simp [hc, hr]

theorem firstLine_append_lineFeed {t r : Text} (h : '\n' ∉ t) :
    firstLine (t ++ '\n' :: r) = t := by
  unfold firstLine
  rw [List.takeWhile_append_of_pos
    fun c hc => by simpa using fun e : c = '\n' => h (e ▸ hc)]
  simp

/-- A text without a line feed is its only line. -/
theorem lines_of_not_mem {t : Text} (h : '\n' ∉ t) : lines t = [t] := by
  obtain ⟨ls, hls⟩ := lines_eq_cons t
  have hlen := length_lines t
  rw [lineFeeds, List.count_eq_zero_of_not_mem h, hls] at hlen
  rw [hls, firstLine_of_not_mem h, List.length_eq_zero_iff.1
    (Nat.succ.inj hlen)]

theorem lines_append_lineFeed {t : Text} (r : Text) (h : '\n' ∉ t) :
    lines (t ++ '\n' :: r) = t :: lines r := by
  induction t with
  | nil => exact lines_lineFeed r
  | cons c t ih =>
    have hc : c ≠ '\n' := fun e => h (by simp [e])
    have ht := ih fun m => h (by simp [m])
    simp only [lines] at ht
    simp only [lines, List.cons_append, cut, hc, ↓reduceIte, ht]

/-- A line, its line feed and some characters more. -/
theorem take_append_lineFeed (l r : Text) (n : Nat) :
    (l ++ '\n' :: r).take (l.length + 1 + n) = l ++ '\n' :: r.take n := by
  rw [Nat.add_assoc, List.take_length_add_append, Nat.add_comm 1 n,
    List.take_succ_cons]

theorem firstLine_append_afterFirstLine (t : Text) :
    firstLine t ++ afterFirstLine t = t :=
  List.takeWhile_append_dropWhile

end Text

end Highlight
