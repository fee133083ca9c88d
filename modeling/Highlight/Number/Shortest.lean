/-
The shortest decimal text that reads back as the same number.

The decimals that read back as a number form an interval around it, ends
included if its significand is even. For one digit, two digits and so on,
the two decimals next to the number on that grid are tried; the first
grid with one inside the interval is taken, and of two such decimals the
nearer one.

# Layout

Numbers from `10 ^ -4` to below `10 ^ 16` are written with a point, and
keep one digit behind it; others have an exponent with a sign and at
least two digits.
-/
import Highlight.Number.Binary64
import Highlight.Text.Basic

namespace Highlight.Binary64

-- ============================================================= digits

/-- The decimal exponent of the first digit of `m · 2 ^ q`. -/
def leadingExponent (m : Nat) (q : Int) : Int :=
  let far : Nat := 400
  let scaled := m * .pow 2 q.toNat * .pow 10 far / .pow 2 (-q).toNat
  ((Nat.toDigits 10 scaled).length : Int) - 1 - far

/-- The multiple of `10 ^ k` nearest to `m · 2 ^ q` that reads back as it,
as a number of such units. -/
def onGrid? (m : Nat) (q k : Int) : Option Nat :=
  let unit := Nat.pow 2 q.toNat * Nat.pow 10 (-k).toNat
  let den := Nat.pow 2 (-q).toNat * Nat.pow 10 k.toNat
  let num := m * unit
  let below := if m = .pow 2 52 ∧ leastExponent < q then 1 else 2
  let even := m % 2 = 0
  let inside (c : Nat) : Bool :=
    let x := 4 * c * den
    let low := 4 * num - below * unit
    let high := 4 * num + 2 * unit
    (low < x && x < high) || (even && (x == low || x == high))
  let c := num / den
  match inside c, inside (c + 1) with
  | true, true => some (nearest num den)
  | true, false => some c
  | false, true => some (c + 1)
  | false, false => none

/-- The shortest digits of a positive number, with the exponent of the
last one. -/
def shortest (m : Nat) (q : Int) : Nat × Int :=
  let lead := leadingExponent m q
  let grids := (List.range 17).map fun n : Nat => lead - n
  match grids.findSome? fun k => (onGrid? m q k).map (·, k) with
  | some found => found
  | none => (m, q)

-- ============================================================= layout

/-- Digits with a point, the first of them of the given exponent. -/
def positional (digits : Text) (exponent : Int) : Text :=
  if exponent < 0 then
    "0.".toList ++ List.replicate (-exponent - 1).toNat '0' ++ digits
  else
    let whole := digits.take (exponent.toNat + 1)
    let zeros := List.replicate (exponent.toNat + 1 - whole.length) '0'
    let rest := digits.drop (exponent.toNat + 1)
    whole ++ zeros ++ ['.'] ++ (if rest.isEmpty then ['0'] else rest)

/-- Digits with a point behind the first, and an exponent. -/
def scientific (digits : Text) (exponent : Int) : Text :=
  let size := (toString exponent.natAbs).toList
  let rest := digits.drop 1
  digits.take 1 ++ (if rest.isEmpty then [] else '.' :: rest)
    ++ ['e', if exponent < 0 then '-' else '+']
    ++ (if size.length < 2 then '0' :: size else size)

/-- The text of a number. -/
def text : Binary64 → Text
  | .nan => "nan".toList
  | .infinite negative => (if negative then "-inf" else "inf").toList
  | .finite negative m q =>
    let sign : Text := if negative then ['-'] else []
    if m = 0 then sign ++ "0.0".toList
    else
      let (n, k) := shortest m q
      let all := (toString n).toList
      let exponent := k + all.length - 1
      let digits := Text.trimRight '0' all
      if -4 ≤ exponent ∧ exponent < 16 then
        sign ++ positional digits exponent
      else
        sign ++ scientific digits exponent

end Highlight.Binary64
