/-
Matching: a node is run at a spot, and what follows it is run at the end
that the node prefers, at the next one if that fails, and so on. The first
end that what follows accepts is the one that counts.

A run takes along the trail of what was noted on the way. A failure does
not undo all notes: each kind of node says what it brings back and where
the foot stays (`Trail`). References and conditions see the marks, and
parts that are taken once and for all go on from the foot.

# Iterations

A loop first runs its mandatory turns, then optional ones. No optional
turn begins where the one before it began, so at most one more of them
can be of use than the text has places. Inside a greedy or lazy loop a
failure brings back all marks.

A possessive loop runs each turn on its own. When a turn fails, the loop
ends where the turn left the foot.

# What follows

The continuation of a node knows its lead. A greedy span uses it: it
passes over the ends where the character does not come that has to
follow.
-/
import Highlight.Regex.Trail

namespace Highlight.Regex

/-- How a run ends: whether a match was found, and the trail behind it. -/
structure Outcome where
  found : Bool
  trail : Trail
deriving DecidableEq, Repr

namespace Outcome

def failed (t : Trail) : Outcome := ⟨false, t⟩

/-- What else there is to do after a failure. -/
def orElse (o : Outcome) (f : Trail → Outcome) : Outcome :=
  if o.found then o else f o.trail

/-- A failure leaves the foot here. -/
def orBack (o : Outcome) (s : Spot) : Outcome :=
  o.orElse fun t => .failed (t.footAt s)

end Outcome

/-- What follows a node. -/
structure Tail where
  /-- The set that the next character has to be in, if it is known. -/
  lead : Option CharSet := none
  go : Spot → Trail → Outcome

namespace Tail

/-- Nothing follows: the foot is set on the end. -/
def done : Tail where
  go s t := ⟨true, t.footAt s⟩

/-- The same continuation, of which the lead is not known. -/
def hidden (k : Tail) : Tail :=
  { k with lead := none }

/-- Whether the character that has to follow does not. -/
def isBarred (k : Tail) (s : Spot) : Bool :=
  k.lead.any fun set => set.literal?.isSome && s.isBarred set

end Tail

/-- A search over the ends of a node, stopped by what follows. -/
abbrev Search := Spot → Trail → Tail → Outcome

namespace Search

-- ======================================================== alternatives

/-- The first search, and the second one when it fails. An alternative
that begins with a guard is passed over when the next character is not in
it. -/
def alt (nested : Bool) (lead : Option CharSet) (f g : Search) : Search :=
  fun s t k =>
    if lead.any fun set => set.isGuard && s.isBarred set then g s t k
    else
      (f s (t.footAt s) k.hidden).orElse fun u =>
        g s (u.restored nested t.marks) k

-- =============================================================== spans

/-- Goes on from the first of some spots where that succeeds. -/
def firstOf (nested : Bool) (marks : List (Option Nat)) (k : Tail) :
    List Spot → Trail → Outcome
  | [], t => .failed t
  | s :: more, t =>
    if k.isBarred s then firstOf nested marks k more t
    else
      (k.go s (t.footAt s)).orElse fun u =>
        firstOf nested marks k more (u.restored nested marks)

/-- Goes on from here, or else behind one more character of a set, up to
a number of them. -/
def stepwise (nested : Bool) (set : CharSet) (marks : List (Option Nat))
    (k : Tail) : Nat → Spot → Trail → Outcome
  | more, s, t =>
    (k.go s (t.footAt s)).orElse fun u =>
      let u := (u.restored nested marks).footAt s
      match s.step? set, more with
      | none, _ => .failed u
      | some next, 0 => .failed (if set.creeps then u.footAt next else u)
      | some next, more + 1 =>
        stepwise nested set marks k more next
          (if set.creeps then u.footAt next else u)

/-- Several characters of a set. -/
def span (nested : Bool) (a : Appetite) (least : Nat) (most : Option Nat)
    (set : CharSet) : Search := fun s t k =>
  if s.left < least then .failed t
  else
    let most := min (most.getD s.left) s.left
    let spots := s.reach set (if a = .lazy then least else most)
    let far := spots.getLastD s
    let t := t.footAt (if set.creeps then far else s)
    if spots.length ≤ least then .failed t
    else
      match a with
      | .greedy => firstOf nested t.marks k (spots.drop least).reverse t
      | .lazy => stepwise nested set t.marks k (most - least) far t
      | .possessive => k.go far t

-- =============================================================== loops

/-- How many optional turns can be of use. -/
def turns (least : Nat) (most : Option Nat) (s : Spot) : Nat :=
  let places := s.pos + s.left + 1
  match most with
  | none => places
  | some most => min (most - least) places

/-- A number of turns, and then another search. -/
def times (f g : Search) : Nat → Search
  | 0, s, t, k => g s t k
  | n + 1, s, t, k =>
    (f s (t.footAt s) { go := fun s t => times f g n s t k }).orBack s

/-- No further turn. -/
def stop : Search := fun s t k => (k.go s (t.footAt s)).orBack s

/-- At most so many further turns, as many as possible first. The last
turn began at the given place. -/
def greedy (f : Search) : Nat → Option Nat → Search
  | 0, _, s, t, k => stop s t k
  | n + 1, last, s, t, k =>
    if last = some s.pos then stop s t k
    else
      (f s (t.footAt s)
        { go := fun u t => greedy f n (some s.pos) u t k }).orElse
        fun _ => stop s t k

/-- At most so many further turns, as few as possible first. -/
def lazy (nested : Bool) (f : Search) : Nat → Option Nat → Search
  | n, last, s, t, k =>
    (k.go s (t.footAt s)).orElse fun u =>
      let u := (u.restored nested t.marks).footAt s
      match n with
      | 0 => .failed u
      | n + 1 =>
        if last = some s.pos then .failed u
        else
          (f s u
            { go := fun v t => lazy nested f n (some s.pos) v t k }).orBack s

/-- At most so many further turns, each on its own and as many as
possible. The search goes on from the foot of the turn that failed, not
from the start of that turn: a turn that fails half way has moved it, and
what it took stays taken. -/
def held (f : Search) : Nat → Trail → Tail → Outcome
  | 0, t, k => k.go t.foot t
  | n + 1, t, k =>
    let o := f t.foot t .done
    if !o.found then
      k.go o.trail.foot { o.trail with marks := t.marks }
    else if o.trail.foot.pos = t.foot.pos then k.go o.trail.foot o.trail
    else held f n o.trail k

/-- A number of turns, each on its own, and then optional ones. -/
def possessive (f : Search) (optional : Nat) (s : Spot) :
    Nat → Trail → Tail → Outcome
  | 0, t, k => held f optional t k
  | n + 1, t, k =>
    let o := f t.foot t .done
    if o.found then possessive f optional s n o.trail k
    else .failed (o.trail.footAt s)

/-- Several turns. -/
def loop (nested : Bool) (a : Appetite) (least : Nat) (most : Option Nat)
    (f : Search) : Search := fun s t k =>
  let optional := turns least most s
  match a with
  | .greedy => times f (greedy f optional none) least s (t.footAt s) k
  | .lazy => times f (lazy nested f optional none) least s (t.footAt s) k
  | .possessive => possessive f optional s least (t.footAt s) k

-- ================================================ parts of their own

/-- Only the preferred end. -/
def atomic (f : Search) : Search := fun s t k =>
  let o := f s (t.footAt s) .done
  if o.found then k.go o.trail.foot o.trail
  else .failed (o.trail.footAt s)

/-- Goes on from here if a search succeeds some characters back, or if it
does not. -/
def look (nested negated : Bool) (distance : Nat) (f : Search) : Search :=
  fun s t k =>
    if s.pos < distance then
      if negated then k.go s t else .failed t
    else
      let back := s.back distance
      let o := f back (t.footAt back) .done
      match negated, o.found with
      | false, true => k.go s o.trail
      | true, false => k.go s (o.trail.restored nested t.marks)
      | _, _ => .failed o.trail

end Search

/-- How far back a look-around begins. -/
def Side.distance : Side → Nat
  | .ahead => 0
  | .behind w => w.least

/-- The search over the ends of a node, inside a greedy or lazy loop or
elsewhere. -/
def Node.run (nested : Bool) : Node → Search
  | .empty, s, t, k => k.go s t
  | .fail, _, t, _ => .failed t
  | .one set, s, t, k =>
    match s.step? set with
    | some u => k.go u t
    | none => .failed t
  | .assertion a, s, t, k => if s.holds a then k.go s t else .failed t
  | .seq a b, s, t, k =>
    a.run nested s t
      { lead := b.lead k.lead, go := fun s t => b.run nested s t k }
  | .alt a b, s, t, k =>
    Search.alt nested (a.lead none) (a.run nested) (b.run nested) s t k
  | .span a least most set, s, t, k =>
    Search.span nested a least most set s t k
  | .loop a least most n, s, t, k =>
    let inner := nested || a != .possessive
    Search.loop nested a least most (n.run inner) s t k
  | .group i n, s, t, k =>
    n.run nested s (t.enter i s) { go := fun s t => k.go s (t.leave i s) }
  | .flagged n, s, t, k => n.run nested s t k
  | .atomic n, s, t, k => Search.atomic (n.run nested) s t k
  | .look side negated n, s, t, k =>
    Search.look nested negated side.distance (n.run nested) s t k
  | .reference i fold _, s, t, k =>
    match (t.text? s i).bind fun text => s.past fold text with
    | some u => k.go u t
    | none => .failed t
  | .conditional i y n, s, t, k =>
    if t.has i then y.run nested s t (if n = .empty then k else k.hidden)
    else n.run nested s t k

end Highlight.Regex
