/-
Reports for people: what is wrong, where, and the text in question with a
mark under the fault.

A report on a language names the language and, if one is to blame, the
rule; it quotes the pattern and marks the column of the fault, or the
whole pattern if no column is known. A report on a scan quotes the line
of the source. Rows and columns count from one in reports. Positions are
integers here, so that a report can be written for any of them.
-/
import Highlight.Scan

namespace Highlight.Diagnostic

/-- So many copies of a character; none for a negative number. -/
def copies (c : Char) (n : Int) : String :=
  .ofList (List.replicate n.toNat c)

/-- A string that is put into a report stands for itself. -/
theorem toString_string (s : String) : toString s = s := rfl

-- =========================================================== languages

/-- What is wrong with a language. -/
structure LanguageReport where
  message : String
  language : String
  /-- The number of the rule to blame. -/
  rule : Option Int := none
  pattern : Option Text := none
  /-- The column of the fault in the pattern. -/
  column : Option Int := none
deriving DecidableEq, Repr

namespace LanguageReport

/-- The language and the rule to blame. -/
def location (r : LanguageReport) : String :=
  match r.rule with
  | none => s!"language '{r.language}'"
  | some i => s!"language '{r.language}', rule {i}"

/-- The mark under the pattern: a caret below the column, or carets below
all of it. -/
def underline (pattern : Text) : Option Int → String
  | some column => copies ' ' column ++ "^"
  | none => copies '^' (max 1 pattern.length)

def text (r : LanguageReport) : String :=
  let head := s!"error: {r.message}\n  --> {r.location}"
  match r.pattern with
  | none => head
  | some p =>
    head ++ "\n   |\n   | " ++ .ofList p
      ++ "\n   | " ++ underline p r.column

end LanguageReport

-- =============================================================== scans

/-- The place of a report in a source. -/
structure Place where
  row : Int
  col : Int
deriving DecidableEq, Repr

def Place.ofPosition (p : Position) : Place := ⟨p.row, p.col⟩

/-- A line of the source, without returns at its end; rows outside the
source are empty. -/
def quotedLine (source : Text) (row : Int) : Text :=
  if row < 0 then []
  else
    ((Text.lines source)[row.toNat]?.map (Text.trimRight '\r')).getD []

/-- A report on a place of a source. -/
def scanReport (message : String) (place : Place) (source : Text)
    (file : String) : String :=
  let number := toString (place.row + 1)
  let gutter := copies ' ' (number.length + 1)
  s!"error: {message}\n"
    ++ s!"{gutter}--> {file}:{number}:{place.col + 1}\n"
    ++ s!"{gutter}|\n"
    ++ s!"{number} | " ++ .ofList (quotedLine source place.row) ++ "\n"
    ++ s!"{gutter}| " ++ copies ' ' place.col ++ "^"

/-- What a stalled scan says. -/
def stallMessage (s : Stall) : String :=
  s!"rule {s.rule} matched empty text"

/-- The report on a stalled scan. -/
def stallReport (s : Stall) (source : Text) : String :=
  scanReport (stallMessage s) (.ofPosition s.position) source "<input>"

end Highlight.Diagnostic
