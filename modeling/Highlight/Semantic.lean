/-
Tokens as an editor asks for them: one entry for each piece of a labelled
token within a line, as five numbers. The first two are the distance to
the entry before, in lines and, on the same line, in columns; the others
are the length, the type and a set of modifiers, which is empty. Columns
and lengths count 16-bit code units.

The encoding has two steps. `entries` places the pieces in the source,
and `deltas` writes each entry relative to the one before. Each step has
its inverse or its lemma of length beside it: `decode_deltas` reads the
entries back.
-/
import Highlight.Tokenize

namespace Highlight.Semantic

/-- The labels an editor is told of, with the names of their types. -/
def types : List (String × String) :=
  [("keyword", "keyword"), ("string", "string"), ("comment", "comment"),
   ("value", "number"), ("builtin", "function"), ("regexp", "regexp")]

/-- The names of the types, by number. -/
def legend : List String := types.map Prod.snd

/-- The number of a label's type. -/
def typeOf? (label : Option String) : Option Nat :=
  label.bind fun l => types.findIdx? (·.1 == l)

/-- A labelled text and where it begins. -/
structure Mark where
  label : Option String
  text : Text
  row : Int
  col : Int
deriving DecidableEq, Repr

def Mark.ofToken (t : Token) : Mark :=
  ⟨t.label, t.text, t.start.row, t.start.col⟩

/-- A piece of a token within one line. -/
structure Entry where
  line : Int
  start : Nat
  length : Nat
  type : Nat
deriving DecidableEq, Repr

-- =========================================================== placing

/-- The row with this number; negative numbers count from the end. -/
def rowAt? (lines : List Text) (row : Int) : Option Text :=
  if 0 ≤ row then lines[row.toNat]?
  else if -row ≤ lines.length then lines[(lines.length + row).toNat]?
  else none

/-- The part of a line before a column; negative columns count from the
end. -/
def upTo (line : Text) (col : Int) : Text :=
  if 0 ≤ col then line.take col.toNat
  else line.take (line.length + col).toNat

/-- The pieces of a text that begins at the given place, line by line.
Empty pieces leave no entry; the others need a row to stand in. -/
def pieces (lines : List Text) (type : Nat) (row col : Int) :
    List Text → Option (List Entry)
  | [] => some []
  | [] :: more => pieces lines type (row + 1) 0 more
  | piece :: more => do
    let line ← rowAt? lines row
    let start := Text.units16 (upTo line col)
    let rest ← pieces lines type (row + 1) 0 more
    some (⟨row, start, Text.units16 piece, type⟩ :: rest)

/-- The entries of all marks whose label has a type. -/
def entries (lines : List Text) : List Mark → Option (List Entry)
  | [] => some []
  | m :: more => do
    let here ←
      match typeOf? m.label with
      | none => some []
      | some type => pieces lines type m.row m.col (Text.lines m.text)
    let rest ← entries lines more
    some (here ++ rest)

-- ========================================================== encoding

/-- Entries as numbers, each relative to the line and start before it. -/
def deltas (line : Int) (start : Nat) : List Entry → List Int
  | [] => []
  | e :: more =>
    let column := if e.line = line then (e.start : Int) - start else e.start
    [e.line - line, column, e.length, e.type, 0]
      ++ deltas e.line e.start more

/-- Entries back from numbers. -/
def decode (line start : Int) : List Int → List Entry
  | l :: c :: length :: type :: _ :: more =>
    let column := if l = 0 then start + c else c
    ⟨line + l, column.toNat, length.toNat, type.toNat⟩
      :: decode (line + l) column more
  | _ => []

theorem decode_deltas (line : Int) (start : Nat) (es : List Entry) :
    decode line start (deltas line start es) = es := by
  induction es generalizing line start with
  | nil => rfl
  | cons e es ih =>
    simp only [deltas, List.cons_append, List.nil_append, decode]
    by_cases h : e.line = line
    · simp only [h, Int.sub_self, ↓reduceIte, Int.add_zero]
      have : (start : Int) + (e.start - start) = e.start := by omega
      rw [this, ih]
      simp [← h]
    · have h' : e.line - line ≠ 0 := by omega
      have : line + (e.line - line) = e.line := by omega
      simp only [h, h', ↓reduceIte, this, ih]
      simp

theorem length_deltas (line : Int) (start : Nat) (es : List Entry) :
    (deltas line start es).length = 5 * es.length := by
  induction es generalizing line start with
  | nil => rfl
  | cons e es ih => simp [deltas, ih]; omega

/-- The numbers for some marks of a source; none if a mark lies outside
the source. -/
def encode (ms : List Mark) (source : Text) : Option (List Int) :=
  (entries (Text.lines source) ms).map (deltas 0 0)

/-- The numbers for the tokens of a source. -/
def ofTokens (ts : List Token) (source : Text) : Option (List Int) :=
  encode (ts.map Mark.ofToken) source

-- ============================================================== sources

/-- Why there are no numbers for a source. -/
inductive Obstacle where
  | halt (h : Halt)
  /-- A token lies outside the source. -/
  | outside
deriving DecidableEq, Repr

/-- The numbers for a source that is scanned by some rules. -/
def ofSource (rules : List Rule) (source : Text) :
    Except Obstacle (List Int) :=
  match tokenize rules source with
  | .error h => .error (.halt h)
  | .ok ts =>
    match ofTokens ts source with
    | none => .error .outside
    | some data => .ok data

end Highlight.Semantic
