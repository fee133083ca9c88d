/-
What a run of a pattern leaves behind: the marks of its groups, and the
spot where it last set foot.

# Marks

A group has two marks, one for where it begins and one for where it ends.
All marks lie in one row, as far as the last one that was ever set; a mark
on the way that was not set is empty. Each mark is set on its own, so a
group that is entered again has a new beginning and still its old end.
The group counts as present while its end does not lie before its
beginning.

# Foot

A run notes where the parts of it begin and end that are tried as a whole.
When such a part fails, the foot may stay where the part gave up; parts
that are taken once and for all go on from there.
-/
import Highlight.Regex.Spot

namespace Highlight.Regex

structure Trail where
  /-- Beginnings and ends of groups, by turns. -/
  marks : List (Option Nat) := []
  /-- The spot noted last. -/
  foot : Spot
deriving DecidableEq, Repr

/-- A group of a match whose end lies before its beginning. -/
structure Crossing where
  group : Nat
deriving DecidableEq, Repr

namespace Trail

/-- The trail with a new foot. -/
def footAt (t : Trail) (s : Spot) : Trail :=
  { t with foot := s }

/-- The trail with a mark set. -/
def mark (i pos : Nat) (t : Trail) : Trail :=
  if i < t.marks.length then
    { t with marks := t.marks.set i (some pos) }
  else
    let gap := List.replicate (i - t.marks.length) none
    { t with marks := t.marks ++ gap ++ [some pos] }

/-- Marks where a group begins. -/
def enter (group : Nat) (s : Spot) (t : Trail) : Trail :=
  t.mark (2 * (group - 1)) s.pos

/-- Marks where a group ends. -/
def leave (group : Nat) (s : Spot) (t : Trail) : Trail :=
  t.mark (2 * (group - 1) + 1) s.pos

/-- The trail with the marks of an earlier moment. Inside an iteration all
of them come back; elsewhere only those go away that are new. -/
def restored (nested : Bool) (marks : List (Option Nat)) (t : Trail) :
    Trail :=
  { t with
    marks := if nested then marks else t.marks.take marks.length }

/-- Where a group begins and ends, if both are marked. -/
def bounds? (t : Trail) (group : Nat) : Option (Nat × Nat) :=
  match t.marks[2 * (group - 1)]?, t.marks[2 * (group - 1) + 1]? with
  | some (some start), some (some stop) => some (start, stop)
  | _, _ => none

/-- Whether a group is present. -/
def has (t : Trail) (group : Nat) : Bool :=
  (t.bounds? group).any fun (start, stop) => start ≤ stop

/-- What a group holds, if it is present. -/
def text? (t : Trail) (s : Spot) (group : Nat) : Option Text :=
  match t.bounds? group with
  | some (start, stop) =>
    if start ≤ stop then some (s.slice start stop) else none
  | none => none

/-- The first group that ends before it begins. -/
def crossing? (t : Trail) : Option Crossing :=
  go 1 t.marks
where
  go (group : Nat) : List (Option Nat) → Option Crossing
    | some start :: some stop :: more =>
      if stop < start then some ⟨group⟩ else go (group + 1) more
    | _ :: _ :: more => go (group + 1) more
    | _ => none

end Trail

end Highlight.Regex
