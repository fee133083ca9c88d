/-
Whole numbers as texts: the value of hexadecimal digits, the digits of a
value, and the limit on decimal ones. A number of more decimal digits is
neither read nor written, since either would take too long.
-/
import Highlight.Text.Basic

namespace Highlight

namespace Text

-- ========================================================= hexadecimal

/-- The value of a hexadecimal digit. -/
def hexValue? (c : Char) : Option Nat :=
  if c.isDigit then some (c.toNat - '0'.toNat)
  else if 'a' ≤ c ∧ c ≤ 'f' then some (c.toNat - 'a'.toNat + 10)
  else if 'A' ≤ c ∧ c ≤ 'F' then some (c.toNat - 'A'.toNat + 10)
  else none

/-- The value of hexadecimal digits. -/
def hexNumber? (ds : Text) : Option Nat :=
  (ds.mapM hexValue?).map fun vs => vs.foldl (fun n v => n * 16 + v) 0

/-- The last `width` hexadecimal digits of a number. -/
def hexDigits : (width n : Nat) → Text
  | 0, _ => []
  | width + 1, n => hexDigits width (n / 16) ++ [Nat.digitChar (n % 16)]

end Text

-- ============================================================= decimal

/-- The most digits that a whole number in decimal may have. -/
def maxDigits : Nat := 4300

/-- Whether a whole number has at most that many digits. -/
def isWritable (n : Int) : Bool :=
  n.natAbs < Nat.pow 10 maxDigits

end Highlight
