/-
Where a search tries a pattern. Not every place is worth a try: a pattern
that begins with certain characters is tried only where they stand, and
one that begins with a certain set only where the next character is in
it. Any other pattern is tried wherever enough text is left for it.

A pattern that may be empty is tried everywhere. Characters count only
where case plays no part. The classes in a set are read by the alphabet of
the whole pattern here, also where a group has an alphabet of its own.
-/
import Highlight.Regex.Spot

namespace Highlight.Regex

/-- What is asked of a place before a pattern is tried there. -/
inductive Scout where
  /-- So many characters are left, or one less. -/
  | room (least : Nat)
  /-- These characters follow. -/
  | text (ns : List Nat)
  /-- A character of the set follows. -/
  | set (chars : CharSet)
deriving DecidableEq, Repr

/-- The set as a search knows it, if case plays no part in it. -/
def CharSet.scout? (ascii : Bool) : CharSet → Option CharSet
  | .single n false .exact => some (.single n false .exact)
  | .listed ms negated fold _ =>
    if fold = .exact || ms.all (·.isCaseless fold) then
      some (.listed ms negated .exact ascii)
    else
      none
  | _ => none

namespace Node

/-- The character that a sequence begins with. -/
def literal? : Node → Option Nat
  | .one set => set.literal?
  | .seq a _ => a.literal?
  | _ => none

/-- The characters that alternatives begin with, if all do. -/
def literals? : Node → Option (List Nat)
  | .fail => some []
  | .alt a b => do
    let n ← a.literal?
    let ns ← b.literals?
    some (n :: ns)
  | _ => none

/-- The set that the first character of a match is in, if it is known. -/
def scoutSet? (ascii : Bool) : Node → Option CharSet
  | .one set => set.scout? ascii
  | .seq a _ => a.scoutSet? ascii
  | .group _ n | .flagged n => n.scoutSet? ascii
  | .alt a b =>
    (literals? (.alt a b)).map fun ns =>
      .listed (ns.map .char) false .exact ascii
  | _ => none

/-- What a search asks of a place before it tries the node. -/
def scout (ascii : Bool) (n : Node) : Scout :=
  if n.width.least = 0 then .room 0
  else
    match n.literals with
    | ([], _) =>
      match n.scoutSet? ascii with
      | some set => .set set
      | none => .room n.width.least
    | (ns, _) => .text ns

end Node

/-- Whether a place is worth a try. -/
def Scout.admits (s : Spot) : Scout → Bool
  | .room least => least ≤ s.left + 1
  | .text ns => ns.isPrefixOf ((s.after.take ns.length).map Char.toNat)
  | .set chars => !s.isBarred chars

end Highlight.Regex
