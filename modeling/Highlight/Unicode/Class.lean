/-
The three character classes that patterns name: word characters, decimal
digits and blanks, each in its full form and in its ASCII form. A blank is
a separator or one of the control characters that separate lines, fields
or records.
-/
import Highlight.Unicode.Letter
import Highlight.Unicode.Number

namespace Highlight.Unicode

/-- The characters that count as blank in every script. -/
def blanks : Ranges :=
  [(0x09, 0x0D), (0x1C, 0x20), (0x85, 0x85), (0xA0, 0xA0),
   (0x1680, 0x1680), (0x2000, 0x200A), (0x2028, 0x2029),
   (0x202F, 0x202F), (0x205F, 0x205F), (0x3000, 0x3000)]

/-- The blanks among the ASCII characters. -/
def asciiBlanks : Ranges := [(0x09, 0x0D), (0x20, 0x20)]

def asciiDigits : Ranges := [(0x30, 0x39)]

def asciiWord : Ranges :=
  [(0x30, 0x39), (0x41, 0x5A), (0x5F, 0x5F), (0x61, 0x7A)]

/-- A letter, a number of any kind or an underscore. -/
def isWord (n : Nat) : Bool :=
  letters.mem n || numbers.mem n || n == 0x5F

/-- The value of a decimal digit of any script. -/
def decimal? (n : Nat) : Option Nat :=
  (decimals.find? fun r => r.1 ≤ n && n ≤ r.2).map fun r =>
    (n - r.1) % 10

end Highlight.Unicode
