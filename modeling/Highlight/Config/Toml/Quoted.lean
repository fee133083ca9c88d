/-
Strings of configuration documents. There are four kinds: basic strings
know escapes, literal strings take every character as it is, and both may
be written over several lines between threefold marks.

Every reader starts behind the opening mark and gives what the string
holds and the text behind its closing mark. Control characters are
refused, but a tab may stand anywhere and a line feed in strings of
several lines.
-/
import Highlight.Text.Digits

namespace Highlight.Config.Toml

/-- A blank within a line. -/
def isBlank (c : Char) : Bool := c == ' ' || c == '\t'

/-- A blank or the end of a line. -/
def isSpace (c : Char) : Bool := isBlank c || c == '\n'

/-- A character that may not stand in a string or a comment as it is. -/
def isControl (c : Char) : Bool :=
  (c.toNat < 0x20 || c.toNat == 0x7F) && c != '\t'

/-- The same for strings of several lines. -/
def isControlInLines (c : Char) : Bool := isControl c && c != '\n'

def skipBlanks (t : Text) : Text := t.dropWhile isBlank

/-- Adds characters in front of a string that has been read. -/
def prepend (cs : Text) : Text × Text → Text × Text
  | (s, r) => (cs ++ s, r)

-- ============================================================ literal

/-- A literal string within a line. -/
def literalLine? : Text → Option (Text × Text)
  | [] => none
  | c :: r =>
    if c = '\'' then some ([], r)
    else if isControl c then none
    else (literalLine? r).map (prepend [c])

/-- A literal string of several lines, up to the first threefold mark. -/
def literalLines? : Text → Option (Text × Text)
  | '\'' :: '\'' :: '\'' :: r => some ([], r)
  | [] => none
  | c :: r =>
    if isControlInLines c then none
    else (literalLines? r).map (prepend [c])

-- ============================================================= escapes

/-- The character with a code of exactly `width` digits. -/
def codeEscape? (width : Nat) (r : Text) : Option (Text × Text) := do
  let digits := r.take width
  let n ← Text.hexNumber? digits
  if digits.length = width ∧ n.isValidChar then
    some ([Char.ofNat n], r.drop width)
  else
    none

/-- A line end that is written with a backslash: the blanks in front of
it and all blanks and line ends behind it are left out. -/
def foldedLine? (r : Text) : Option Text :=
  match skipBlanks r with
  | [] => some []
  | c :: r => if c = '\n' then some (r.dropWhile isSpace) else none

/-- What an escape stands for, from behind its backslash on. -/
def escape? (lines : Bool) : Text → Option (Text × Text)
  | [] => none
  | c :: r =>
    match c with
    | 'b' => some (['\x08'], r)
    | 't' => some (['\t'], r)
    | 'n' => some (['\n'], r)
    | 'f' => some (['\x0c'], r)
    | 'r' => some (['\r'], r)
    | '"' => some (['"'], r)
    | '\\' => some (['\\'], r)
    | 'u' => codeEscape? 4 r
    | 'U' => codeEscape? 8 r
    | c =>
      if lines && isSpace c then
        (foldedLine? (c :: r)).map fun r => ([], r)
      else
        none

theorem length_of_codeEscape? {width : Nat} {r cs r' : Text}
    (h : codeEscape? width r = some (cs, r')) : r'.length ≤ r.length := by
  unfold codeEscape? at h
  simp only [Option.bind_eq_bind, Option.bind_eq_some_iff] at h
  obtain ⟨vs, -, h⟩ := h
  split at h <;> cases h
  simp

theorem length_of_foldedLine? {r r' : Text}
    (h : foldedLine? r = some r') : r'.length ≤ r.length := by
  have hle := (List.dropWhile_suffix (l := r) isBlank).length_le
  unfold foldedLine? skipBlanks at h
  split at h
  · cases h; simp
  · next c s hs =>
    rw [hs, List.length_cons] at hle
    split at h <;> cases h
    have := (List.dropWhile_suffix (l := s) isSpace).length_le
    omega

theorem length_of_escape? {lines : Bool} {r cs r' : Text}
    (h : escape? lines r = some (cs, r')) : r'.length ≤ r.length := by
  unfold escape? at h
  split at h
  · cases h
  · next c s =>
    simp only [List.length_cons]
    split at h
    iterate 7
      · cases h; omega
    · have := length_of_codeEscape? h; omega
    · have := length_of_codeEscape? h; omega
    · split at h
      · obtain ⟨t, ht, he⟩ := Option.map_eq_some_iff.1 h
        cases he
        have := length_of_foldedLine? ht
        simpa using this
      · cases h

-- =============================================================== basic

/-- A basic string, within a line or of several lines. -/
def basic? (lines : Bool) (t : Text) : Option (Text × Text) :=
  match t with
  | [] => none
  | c :: r =>
    if c = '"' then
      if !lines then some ([], r)
      else if r.take 2 = ['"', '"'] then some ([], r.drop 2)
      else (basic? lines r).map (prepend ['"'])
    else if c = '\\' then
      match h : escape? lines r with
      | none => none
      | some (cs, r') =>
        have := length_of_escape? h
        (basic? lines r').map (prepend cs)
    else if (if lines then isControlInLines c else isControl c) then none
    else (basic? lines r).map (prepend [c])
termination_by t.length

-- ======================================================== either kind

/-- Up to two marks that stand right in front of a threefold closing mark
belong to the string. -/
def trailingMarks (mark : Char) : Text × Text → Text × Text
  | (s, c :: d :: r) =>
    if c = mark then
      if d = mark then (s ++ [mark, mark], r) else (s ++ [mark], d :: r)
    else (s, c :: d :: r)
  | (s, [c]) => if c = mark then (s ++ [mark], []) else (s, [c])
  | (s, []) => (s, [])

/-- A line feed right behind a threefold opening mark is left out. -/
def skipLineFeed : Text → Text
  | '\n' :: r => r
  | r => r

/-- A string within a line, from its opening mark on. -/
def line? : Text → Option (Text × Text)
  | '"' :: r => basic? false r
  | '\'' :: r => literalLine? r
  | _ => none

/-- A string of any kind, from its opening mark on. -/
def string? : Text → Option (Text × Text)
  | '"' :: '"' :: '"' :: r =>
    (basic? true (skipLineFeed r)).map (trailingMarks '"')
  | '\'' :: '\'' :: '\'' :: r =>
    (literalLines? (skipLineFeed r)).map (trailingMarks '\'')
  | t => line? t

end Highlight.Config.Toml
