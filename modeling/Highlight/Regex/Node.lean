/-
Patterns as trees, and the lengths of what they match.

Every place that stands for one character is a set, whatever its
spelling. Groups are numbered from one. The flags in force where a node
was written are already part of it: sets and back-references know how
case is ignored, assertions know the alphabet and the kind of line end.

An iteration of a single character is a `span`; every other one is a
`loop`. Alternatives are a chain of `alt` that ends in `fail`. A group
with flags of its own is kept apart (`flagged`), while any other group
without a number is its content.

# Width

`Node.width` bounds the number of characters that a node takes up.
Lengths are capped, so that huge counts stay comparable. A reference
carries the width of its group. Looking behind needs a node whose two
bounds agree.

# The lead

What a node begins with is its `lead`: the set that its first character
has to be in, if the node begins with such a place. A node that leaves no
trace in a sequence leads with what follows it.
-/
import Highlight.Regex.CharSet

namespace Highlight.Regex

/-- Conditions on a place, which take up no text. -/
inductive Assertion where
  /-- The start of the text. -/
  | start
  /-- The start of a line. -/
  | lineStart
  /-- The end of the text. -/
  | finish
  /-- The end of the text, or a line feed that ends it. -/
  | lastLineEnd
  /-- The end of a line. -/
  | lineEnd
  /-- An edge between a word character and another or none. -/
  | boundary (ascii : Bool)
  /-- No such edge; the empty text has neither. -/
  | noBoundary (ascii : Bool)
deriving DecidableEq, Repr

/-- In which order the numbers of iterations are tried. -/
inductive Appetite where
  /-- As many as possible first. -/
  | greedy
  /-- As few as possible first. -/
  | lazy
  /-- As many as possible, once and for all. -/
  | possessive
deriving DecidableEq, Repr

/-- Bounds on a number of characters. -/
structure Width where
  least : Nat
  most : Nat
deriving DecidableEq, Repr

/-- Where to look for the pattern of a look-around. -/
inductive Side where
  | ahead
  | behind (width : Width)
deriving DecidableEq, Repr

inductive Node where
  | empty
  | fail
  | one (set : CharSet)
  | assertion (a : Assertion)
  | seq (first second : Node)
  | alt (first others : Node)
  | span (appetite : Appetite) (least : Nat) (most : Option Nat)
      (set : CharSet)
  | loop (appetite : Appetite) (least : Nat) (most : Option Nat)
      (body : Node)
  | group (number : Nat) (body : Node)
  | flagged (body : Node)
  | atomic (body : Node)
  | look (side : Side) (negated : Bool) (body : Node)
  | reference (number : Nat) (fold : Fold) (width : Width)
  | conditional (number : Nat) (present absent : Node)
deriving DecidableEq, Repr

-- ============================================================== width

namespace Width

/-- Lengths from here on count as without a bound. -/
def cap : Nat := 4294967295

/-- Bounds with lengths beyond the cap brought back to it; the lower
bound stays below it. -/
def capped (least most : Nat) : Width :=
  ⟨min least (cap - 1), min most cap⟩

def zero : Width := ⟨0, 0⟩

/-- The bounds when there is nothing to choose from. -/
def none : Width := ⟨cap - 1, 0⟩

def add (v w : Width) : Width :=
  capped (v.least + w.least) (v.most + w.most)

/-- The bounds when either may occur. -/
def join (v w : Width) : Width :=
  ⟨min v.least w.least, max v.most w.most⟩

/-- The bounds of several iterations. -/
def times (w : Width) (least : Nat) (most : Option Nat) : Width :=
  capped (w.least * least) (w.most * most.getD cap)

end Width

namespace Node

/-- The bounds on what a node takes up. -/
def width : Node → Width
  | .empty | .assertion _ | .look _ _ _ => .zero
  | .fail => .none
  | .one _ => ⟨1, 1⟩
  | .seq a b => a.width.add b.width
  | .alt a b => a.width.join b.width
  | .span _ least most _ => Width.times ⟨1, 1⟩ least most
  | .loop _ least most n => n.width.times least most
  | .group _ n | .flagged n | .atomic n => n.width
  | .reference _ _ w => w
  | .conditional _ y n => y.width.join n.width

-- ============================================================ building

/-- Nodes one after another. -/
def ofList : List Node → Node
  | [] => .empty
  | [n] => n
  | n :: ns => .seq n (ofList ns)

/-- Nodes as alternatives, the first one preferred. -/
def choice : List Node → Node
  | [] => .fail
  | n :: ns => .alt n (choice ns)

/-- The set of a node that is a single character. -/
def single? : Node → Option CharSet
  | .one set => some set
  | .flagged n => n.single?
  | _ => none

/-- Several iterations of a node. -/
def iterate (a : Appetite) (least : Nat) (most : Option Nat)
    (n : Node) : Node :=
  match n.single? with
  | some set => .span a least most set
  | none => .loop a least most n

/-- Whether the node is a place of its own, without parts. -/
def isAtom : Node → Bool
  | .one _ | .assertion _ | .reference _ _ _ => true
  | _ => false

/-- Takes the atoms that all alternatives begin with out of them. -/
def sharedLead : List Node → List (List Node) →
    List Node × List (List Node)
  | [], others => ([], [] :: others)
  | n :: ns, others =>
    if n.isAtom && others.all (·.head? == some n) then
      let (lead, branches) := sharedLead ns (others.map List.tail)
      (n :: lead, branches)
    else
      ([], (n :: ns) :: others)

/-- The members that an alternative adds to a set, if it is no more than
a set that is not negated. -/
def members? : List Node → Option (List Member)
  | [.one set] => set.members?
  | _ => none

/-- Alternatives as a sequence of nodes. What all of them begin with is
moved out in front, and single characters are gathered in a set. -/
def ofBranches (fold : Fold) (ascii : Bool) :
    List (List Node) → List Node
  | [] => []
  | [branch] => branch
  | first :: others =>
    let (lead, branches) := sharedLead first others
    match branches.mapM members? with
    | some mss =>
      lead ++ [.one (.ofList fold ascii false mss.flatten.eraseDups)]
    | none => lead ++ [choice (branches.map ofList)]

-- =============================================================== leads

/-- The set that the first character has to be in, if the node or what
follows it begins with one. -/
def lead (next : Option CharSet) : Node → Option CharSet
  | .empty => next
  | .one set => some set
  | .seq a b => a.lead (b.lead next)
  | .flagged n => n.lead next
  | _ => none

/-- The characters that every match begins with, and whether they are all
of the node. Only characters without case count. -/
def literals : Node → List Nat × Bool
  | .empty => ([], true)
  | .one set =>
    match set.literal? with
    | some n => ([n], true)
    | none => ([], false)
  | .seq a b =>
    match a.literals with
    | (ns, true) =>
      let (ms, all) := b.literals
      (ns ++ ms, all)
    | (ns, false) => (ns, false)
  | .group _ n | .flagged n => n.literals
  | _ => ([], false)

end Node

end Highlight.Regex
