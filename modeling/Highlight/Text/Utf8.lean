/-
Texts as bytes in UTF-8.

A character takes one byte or a leading byte and one to three trailing
ones. The leading byte fixes the range of every trailing byte, which
excludes codes that are too long, surrogates and codes beyond the last
character. Bytes are read piece by piece, the longest that could be a
character or the start of one, and a piece that is no character makes the
whole unreadable.
-/
import Highlight.Text.Basic

namespace Highlight

abbrev Bytes := List UInt8

namespace Utf8

-- ============================================================= writing

/-- A trailing byte with six bits of a code. -/
def trailing (n : Nat) : UInt8 := .ofNat (0x80 + n % 64)

def encodeChar (c : Char) : Bytes :=
  let n := c.toNat
  if n < 0x80 then [.ofNat n]
  else if n < 0x800 then [.ofNat (0xC0 + n / 64), trailing n]
  else if n < 0x10000 then
    [.ofNat (0xE0 + n / 4096), trailing (n / 64), trailing n]
  else
    [.ofNat (0xF0 + n / 262144), trailing (n / 4096), trailing (n / 64),
     trailing n]

def encode (t : Text) : Bytes := t.flatMap encodeChar

-- ============================================================= reading

/-- The bits of a leading byte and the ranges of the bytes behind it. -/
def leading? (b : Nat) : Option (Nat × List (Nat × Nat)) :=
  let any := (0x80, 0xBF)
  if b < 0x80 then some (b, [])
  else if b < 0xC2 then none
  else if b < 0xE0 then some (b - 0xC0, [any])
  else if b = 0xE0 then some (0, [(0xA0, 0xBF), any])
  else if b = 0xED then some (0xD, [(0x80, 0x9F), any])
  else if b < 0xF0 then some (b - 0xE0, [any, any])
  else if b = 0xF0 then some (0, [(0x90, 0xBF), any, any])
  else if b < 0xF4 then some (b - 0xF0, [any, any, any])
  else if b = 0xF4 then some (4, [(0x80, 0x8F), any, any])
  else none

/-- Reads on through trailing bytes: the code if they are complete, and
the bytes from the first unfit one on. -/
def follow : List (Nat × Nat) → Nat → Bytes → Option Nat × Bytes
  | [], n, bs => (some n, bs)
  | _ :: _, _, [] => (none, [])
  | (lo, hi) :: more, n, b :: bs =>
    if lo ≤ b.toNat ∧ b.toNat ≤ hi then
      follow more (n * 64 + b.toNat % 64) bs
    else
      (none, b :: bs)

theorem length_follow (ranges : List (Nat × Nat)) (n : Nat) (bs : Bytes) :
    (follow ranges n bs).2.length ≤ bs.length := by
  fun_induction follow ranges n bs with
  | case1 => exact Nat.le_refl _
  | case2 => exact Nat.le_refl _
  | case3 lo hi more n b bs _ ih => exact Nat.le_succ_of_le ih
  | case4 => exact Nat.le_refl _

/-- One character or an unfit piece, and the bytes behind it. -/
def next (b : UInt8) (bs : Bytes) : Option Char × Bytes :=
  match leading? b.toNat with
  | none => (none, bs)
  | some (n, ranges) =>
    match follow ranges n bs with
    | (some n, rest) => (some (Char.ofNat n), rest)
    | (none, rest) => (none, rest)

theorem length_next (b : UInt8) (bs : Bytes) :
    (next b bs).2.length ≤ bs.length := by
  unfold next
  split
  · exact Nat.le_refl _
  · next n ranges _ =>
    have := length_follow ranges n bs
    split <;> simp_all

/-- The characters of some bytes, absent where a piece is unfit. -/
def pieces (bs : Bytes) : List (Option Char) :=
  match bs with
  | [] => []
  | b :: bs =>
    have := length_next b bs
    (next b bs).1 :: pieces (next b bs).2
termination_by bs.length

/-- The text that the bytes stand for. -/
def decode? (bs : Bytes) : Option Text :=
  (pieces bs).mapM id

end Utf8

end Highlight
