/-
Names of code points in a row.

A run writes its names one behind the other, divided by semicolons. Names
that stand beside each other often begin alike, so each is written with a
digit in front that counts the leading words that it shares with the name
before it, and without those words.
-/
import Highlight.Text.Basic

namespace Highlight.Unicode

/-- Code points in a row, from `first` on, and what is written of their
names, in lines that follow on each other at any place. -/
structure NameRun where
  first : Nat
  lines : List String
deriving DecidableEq, Repr

namespace NameRun

/-- The words of a name as it is written behind the name before it. -/
def wordsBehind (before : List Text) : Text → List Text
  | [] => []
  | d :: written =>
    before.take (d.toNat - '0'.toNat) ++ Text.cut ' ' written

/-- The words of all names that are written behind a name. -/
def expand (before : List Text) : List Text → List (List Text)
  | [] => []
  | written :: more =>
    let words := wordsBehind before written
    words :: expand words more

/-- What is written of the names. -/
def written (r : NameRun) : Text :=
  r.lines.flatMap String.toList

/-- The names in order, word by word. -/
def toList (r : NameRun) : List (List Text) :=
  expand [] (Text.cut ';' r.written)

/-- The code point that has a name. -/
def find? (r : NameRun) (words : List Text) : Option Nat :=
  (r.toList.idxOf? words).map (r.first + ·)

end NameRun

end Highlight.Unicode
