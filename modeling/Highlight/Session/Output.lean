/-
What a session puts out for a source text: the text highlighted in the
language of the settings, bare, in a block or as a page.

A text is escaped before it is scanned, unless it came escaped. A
language that is not known leaves the text without marks and the user
with a warning; no language at all is an obstacle. The block is built
from the source as it was read, not from the escaped text, so the gutter
counts the same lines either way.

For a look at what a scan made, the user may be told its tokens, one to a
line.
-/
import Highlight.Diagnostic
import Highlight.Html.Page
import Highlight.Settings
import Highlight.Tokenize

namespace Highlight

namespace Dump

-- ========================================================= tokens, shown

/-- Row and column, counted from one. -/
def place (p : Position) : String :=
  s!"{p.row + 1}:{p.col + 1}"

def line (t : Token) : String :=
  let label := t.shown?.getD "-"
  s!"{place t.start}-{place t.stop} {label} "
    ++ .ofList (Text.quoted t.text) ++ "\n"

def ofTokens (ts : List Token) : String :=
  String.join (ts.map line)

end Dump

namespace Settings

-- ============================================================== output

/-- The title of a page: the name of the input. -/
def title (s : Settings) : String :=
  match s.input with
  | some p => p.name
  | none => "stdin"

/-- The text that is scanned. -/
def prepared (s : Settings) (source : Text) : Text :=
  if s.escape then Html.escape source else source

/-- Puts a block or a page around highlighted text, as the settings ask. -/
def wrapped (s : Settings) (language : Option String)
    (source highlighted : Text) : Text :=
  let block := Html.block highlighted source language s.lineNumbers
  if s.standalone then Html.page block s.title.toList
  else if s.lineNumbers then block
  else highlighted

/-- What the user is told about a language that is not known. -/
def unknownLanguage (language : String) : String :=
  s!"warning: no such language '{language}'; "
    ++ "output left unhighlighted\n"

/-- The known name of a language and its rules. -/
def rules? (s : Settings) (language : String) :
    Option (String × List Rule) := do
  let name ← s.registry.canonicalName? language
  let rules ← s.registry.get? name
  some (name, rules)

/-- Why nothing is put out for a source text. -/
inductive Obstacle where
  | halt (h : Halt)
  /-- No language was given where one was meant to be. -/
  | noLanguage
deriving DecidableEq, Repr

/-- What is put out for a source text in a language, with notes for the
user. -/
def highlightIn (s : Settings) (language : String) (source : Text) :
    Except Halt (String × Text) :=
  match s.rules? language with
  | none =>
    .ok (unknownLanguage language,
      s.wrapped none source (s.prepared source))
  | some (name, rules) => do
    let tokens ← tokenize rules (s.prepared source)
    let notes := if s.debug then Dump.ofTokens tokens else ""
    .ok (notes, s.wrapped (some name) source (Html.ofTokens tokens))

/-- What is put out for a source text, with notes for the user. -/
def highlight (s : Settings) (source : Text) :
    Except Obstacle (String × Text) :=
  match s.language with
  | .nothing => .error .noLanguage
  | .word language => (s.highlightIn language source).mapError .halt

/-- The report on a scan of a source text that stalled. -/
def stallReport (s : Settings) (source : Text) (stall : Stall) : String :=
  Diagnostic.stallReport stall (s.prepared source)

end Settings

end Highlight
