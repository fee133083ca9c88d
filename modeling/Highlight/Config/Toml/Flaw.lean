/-
What can keep a document from being read. Most documents that cannot be
read are malformed; a few are well formed as far as they go, but hold a
number of too many digits or nest values too deep. The flaw that comes
first in the text counts.
-/
import Highlight.Text.Digits

namespace Highlight.Config.Toml

inductive Flaw where
  | malformed
  /-- A whole number in decimal with too many digits. -/
  | longNumber
  /-- Values inside one another beyond the limit. -/
  | tooDeep
deriving DecidableEq, Repr

/-- What is read from the start of a text. -/
abbrev Reading (α : Type) := Except Flaw α

/-- A text that cannot be read otherwise is malformed. -/
def wellFormed {α : Type} : Option α → Reading α
  | some a => .ok a
  | none => .error .malformed

/-- How much room there is for values inside one another. -/
def depthLimit : Nat := 980

/-- The room that an array takes for what is in it. -/
def arrayDepth : Nat := 2

/-- The room that an inline table takes for what is in it. -/
def tableDepth : Nat := 3

/-- The room that is left behind a value that takes some. -/
def deeper (room taken : Nat) : Reading Nat :=
  if room < taken then .error .tooDeep else .ok (room - taken)

end Highlight.Config.Toml
