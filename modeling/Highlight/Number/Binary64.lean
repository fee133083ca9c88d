/-
Binary floating-point numbers of 64 bits, as the values they stand for,
and the number nearest to a decimal.

A finite number is `m · 2 ^ q` with `m` below `2 ^ 53`; above the smallest
exponent `m` is at least `2 ^ 52`, so each number but zero has one form.
All arithmetic is done on natural numbers: a decimal is a fraction, and
the nearest multiple of a power of two is found by one division with
remainder.
-/

namespace Highlight

inductive Binary64 where
  | finite (negative : Bool) (m : Nat) (q : Int)
  | infinite (negative : Bool)
  | nan
deriving DecidableEq, Repr

namespace Binary64

def leastExponent : Int := -1074

def greatestExponent : Int := 971

def zero (negative : Bool) : Binary64 := .finite negative 0 leastExponent

/-- The natural number nearest to a fraction, the even one on a tie. -/
def nearest (num den : Nat) : Nat :=
  let n := num / den
  let rest := 2 * (num % den)
  if rest < den then n
  else if den < rest then n + 1
  else n + n % 2

/-- A fraction divided by a power of two, as a fraction. -/
def scale (num den : Nat) (q : Int) : Nat × Nat :=
  (num * .pow 2 (-q).toNat, den * .pow 2 q.toNat)

/-- The exponent with which a fraction has 53 binary digits. -/
def exponentFor (num den : Nat) : Int :=
  let q : Int := (num.log2 : Int) - den.log2 - 52
  let (n, d) := scale num den q
  if n / d < .pow 2 52 then q - 1 else q

/-- The number nearest to a positive fraction. -/
def ofFraction (negative : Bool) (num den : Nat) : Binary64 :=
  let q := max (exponentFor num den) leastExponent
  let (n, d) := scale num den q
  let m := nearest n d
  let (m, q) := if m = .pow 2 53 then (.pow 2 52, q + 1) else (m, q)
  if greatestExponent < q then .infinite negative
  else .finite negative m q

/-- Decimals with this many digits before the point are beyond the range,
and as many zeros behind it leave nothing. -/
def decimalLimit : Int := 400

/-- The number nearest to `digits · 10 ^ exponent`. -/
def ofDecimal (negative : Bool) (digits : Nat) (exponent : Int) :
    Binary64 :=
  if digits = 0 then zero negative
  else if decimalLimit < exponent then .infinite negative
  else if exponent + digits.log2 < -decimalLimit then zero negative
  else
    ofFraction negative (digits * .pow 10 exponent.toNat)
      (.pow 10 (-exponent).toNat)

end Binary64

end Highlight
