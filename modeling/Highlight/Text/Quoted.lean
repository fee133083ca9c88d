/-
Quoted texts on one line, as they are shown in dumps and in messages.

The quotes are single, unless the text holds single quotes and no double
ones. Inside, the quote in use and the backslash are escaped, as is every
character that would not be seen: line feed, return and tab by a letter,
the others by their code in two, four or eight hexadecimal digits.
-/
import Highlight.Text.Digits
import Highlight.Unicode.Printable

namespace Highlight.Text

/-- A character by its code, in the shortest escape that holds it. -/
def escapeCode (n : Nat) : Text :=
  if n < 0x100 then '\\' :: 'x' :: hexDigits 2 n
  else if n < 0x10000 then '\\' :: 'u' :: hexDigits 4 n
  else '\\' :: 'U' :: hexDigits 8 n

/-- One character inside quotes of the given kind. -/
def quoteChar (mark c : Char) : Text :=
  if c = mark ∨ c = '\\' then ['\\', c]
  else if c = '\n' then ['\\', 'n']
  else if c = '\r' then ['\\', 'r']
  else if c = '\t' then ['\\', 't']
  else if Unicode.isPrintable c.toNat then [c]
  else escapeCode c.toNat

/-- The quotes that need the least escaping. -/
def quoteMark (t : Text) : Char :=
  if '\'' ∈ t ∧ '"' ∉ t then '"' else '\''

/-- The text in quotes. -/
def quoted (t : Text) : Text :=
  let mark := quoteMark t
  mark :: t.flatMap (quoteChar mark) ++ [mark]

end Highlight.Text
