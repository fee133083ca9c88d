/-
A spot is a place in a text.

The text is kept as two halves, the nearer characters first in both, so
moving by one character is a pattern match; the lengths of the halves are
kept beside them, so that spots are compared without counting. Patterns
see the whole of both halves: looking behind and the assertions reach back
to the start of the text that is being matched, and no further.
-/
import Highlight.Regex.Node
import Highlight.Text.Basic

namespace Highlight.Regex

structure Spot where
  /-- The characters passed, the last one first. -/
  before : Text
  /-- The characters to come. -/
  after : Text
  /-- The number of characters passed. -/
  pos : Nat
  /-- The number of characters to come. -/
  left : Nat
  pos_eq : pos = before.length
  left_eq : left = after.length
deriving DecidableEq, Repr

namespace Spot

/-- The start of a text. -/
def start (t : Text) : Spot where
  before := []
  after := t
  pos := 0
  left := t.length
  pos_eq := rfl
  left_eq := rfl

/-- The next character, and the spot behind it. -/
def next? (s : Spot) : Option (Char × Spot) :=
  match h : s.after with
  | [] => none
  | c :: r =>
    some (c, {
      before := c :: s.before
      after := r
      pos := s.pos + 1
      left := s.left - 1
      pos_eq := by rw [s.pos_eq, List.length_cons]
      left_eq := by rw [s.left_eq, h, List.length_cons,
        Nat.add_sub_cancel] })

/-- A spot behind the next character has less to come. -/
theorem left_of_next? {s t : Spot} {c : Char}
    (h : s.next? = some (c, t)) : t.left + 1 = s.left := by
  unfold next? at h
  split at h
  · cases h
  · next ha =>
    cases h
    have := congrArg List.length ha
    have := s.left_eq
    simp only [List.length_cons] at *
    omega

/-- The spot that lies `n` characters back. -/
def back (s : Spot) (n : Nat) : Spot where
  before := s.before.drop n
  after := (s.before.take n).reverse ++ s.after
  pos := s.pos - n
  left := s.left + min n s.pos
  pos_eq := by rw [s.pos_eq, List.length_drop]
  left_eq := by
    rw [s.pos_eq, s.left_eq, List.length_append, List.length_reverse,
      List.length_take, Nat.add_comm]

/-- The spot behind the next character, if a set holds that one. -/
def step? (set : CharSet) (s : Spot) : Option Spot :=
  match s.next? with
  | some (c, t) => if set.mem c then some t else none
  | none => none

/-- Whether the next character is missing or outside the set. -/
def isBarred (s : Spot) (set : CharSet) : Bool :=
  s.after.head?.all (!set.mem ·)

/-- The spot itself and those behind one, two and more characters of a
set, up to a number. -/
def reach (set : CharSet) : Nat → Spot → List Spot
  | 0, s => [s]
  | n + 1, s =>
    match s.step? set with
    | some t => s :: reach set n t
    | none => [s]

/-- The text between two places, the second not before the first. -/
def slice (s : Spot) (start stop : Nat) : Text :=
  (((s.back (s.pos - start)).after.drop (start - s.pos)).take
    (stop - start))

/-- Moves over a text that is compared character by character. -/
def past (fold : Fold) : Text → Spot → Option Spot
  | [], s => some s
  | c :: t, s =>
    match s.next? with
    | none => none
    | some (d, s) =>
      if fold.lower c.toNat = fold.lower d.toNat then past fold t s
      else none

/-- Whether an assertion holds here. -/
def holds (s : Spot) : Assertion → Bool
  | .start => s.before.isEmpty
  | .lineStart => s.before.head?.all (· == '\n')
  | .finish => s.after.isEmpty
  | .lastLineEnd => s.after.isEmpty || s.after == ['\n']
  | .lineEnd => s.after.head?.all (· == '\n')
  | .boundary ascii => !blank s && left s ascii != right s ascii
  | .noBoundary ascii => !blank s && left s ascii == right s ascii
where
  /-- The text that is being matched is empty. -/
  blank (s : Spot) : Bool := s.before.isEmpty && s.after.isEmpty
  /-- A word character stands before the spot. -/
  left (s : Spot) (ascii : Bool) : Bool :=
    s.before.head?.any (Category.word.mem ascii ·.toNat)
  /-- A word character stands after the spot. -/
  right (s : Spot) (ascii : Bool) : Bool :=
    s.after.head?.any (Category.word.mem ascii ·.toNat)

end Spot

end Highlight.Regex
