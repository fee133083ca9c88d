/-
Rules of a language and the tokens they make.

A simple rule describes a token within one line. A delimited rule
describes one that begins with its opening and runs on, over line ends if
need be, up to the first match of its closing. A rule may give its tokens
a label; an empty label counts as none when tokens are shown.
-/
import Highlight.Regex.Pattern
import Highlight.Text.Position

namespace Highlight

inductive Rule where
  | simple (pattern : Pattern) (label : Option String)
  | delimited (opening closing : Pattern) (label : Option String)
deriving DecidableEq, Repr

namespace Rule

/-- The pattern that decides whether the rule applies. -/
def opening : Rule → Pattern
  | .simple p _ => p
  | .delimited p _ _ => p

def label : Rule → Option String
  | .simple _ l => l
  | .delimited _ _ l => l

/-- The rule with another opening. -/
def withOpening (p : Pattern) : Rule → Rule
  | .simple _ l => .simple p l
  | .delimited _ closing l => .delimited p closing l

end Rule

/-- A run of text, with the label of the rule that made it. -/
structure Token where
  label : Option String
  text : Text
  start : Position
  stop : Position
deriving DecidableEq, Repr

/-- The label that a token shows, which is never empty. -/
def Token.shown? (t : Token) : Option String :=
  t.label.filter (· != "")

end Highlight
