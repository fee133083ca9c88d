/-
Compiled patterns, and the three things done with them: matching at the
start of a text, searching through a text, and anchoring.

What a pattern matches is given by its length (`matchLength?`) or by the
place where it ends (`searchEnd?`), so the matched text is a part of the
text at hand by construction. Both are bounded by the length of the text.
A match whose groups are crossed is no answer but a failure.

# Anchoring

A pattern is anchored in writing: an assertion of the start is put in
front of it, behind the groups of flags that it begins with, and the rest
is set in parentheses. The new text is compiled with the flags of the old
pattern.

# Given texts

A pattern for a given text is written with a backslash before every
character that could mean something else, also in a verbose pattern.
-/
import Highlight.Regex.Parse
import Highlight.Regex.Run
import Highlight.Regex.Scout

namespace Highlight

open Regex

structure Pattern where
  /-- How the pattern is written. -/
  text : Text
  /-- The flags in force for the whole pattern. -/
  flags : Flags
  node : Node
deriving DecidableEq, Repr

namespace Pattern

def compile (text : Text) (flags : Flags) : Except Rejection Pattern :=
  match parse text flags with
  | .ok (node, flags) => .ok { text, flags, node }
  | .error e => .error (e.rejection text.length)

/-- The pattern compiled again with further flags; without any it stays
as it is. -/
def withFlags (p : Pattern) (flags : Flags) : Except Rejection Pattern :=
  if flags = .none then .ok p
  else compile p.text (p.flags.union flags)

-- =========================================================== matching

/-- Whether a text has room for the pattern. -/
def fits (p : Pattern) (t : Text) : Bool :=
  p.node.width.least ≤ t.length

/-- The trail of a match that begins at a spot. -/
def trail? (n : Node) (s : Spot) : Option Trail :=
  let o := n.run false s { foot := s } .done
  if o.found then some o.trail else none

/-- Where a match ends, unless its groups are crossed. -/
def endOf (t : Text) : Option Trail → Except Crossing (Option Nat)
  | none => .ok none
  | some trail =>
    match trail.crossing? with
    | some c => .error c
    | none => .ok (some (min trail.foot.pos t.length))

/-- The length of the match at the start of a text. -/
def matchLength? (p : Pattern) (t : Text) :
    Except Crossing (Option Nat) :=
  if p.fits t then endOf t (trail? p.node (.start t)) else .ok none

/-- The trail of the match at the first spot from here on that is worth a
try and has one. -/
def seek (scout : Scout) (n : Node) (s : Spot) : Option Trail :=
  (if scout.admits s then trail? n s else none) <|>
    match h : s.next? with
    | none => none
    | some (_, t) =>
      have := Spot.left_of_next? h
      seek scout n t
termination_by s.left

/-- Where the leftmost match in a text ends. -/
def searchEnd? (p : Pattern) (t : Text) : Except Crossing (Option Nat) :=
  if p.fits t then
    endOf t (seek (p.node.scout p.flags.ascii) p.node (.start t))
  else
    .ok none

theorem le_of_endOf {t : Text} {trail : Option Trail} {n : Nat}
    (h : endOf t trail = .ok (some n)) : n ≤ t.length := by
  unfold endOf at h
  split at h
  · cases h
  · split at h
    · cases h
    · cases h
      exact Nat.min_le_right _ _

theorem matchLength?_le {p : Pattern} {t : Text} {n : Nat}
    (h : p.matchLength? t = .ok (some n)) : n ≤ t.length := by
  unfold matchLength? at h
  split at h
  · exact le_of_endOf h
  · cases h

theorem searchEnd?_le {p : Pattern} {t : Text} {n : Nat}
    (h : p.searchEnd? t = .ok (some n)) : n ≤ t.length := by
  unfold searchEnd? at h
  split at h
  · exact le_of_endOf h
  · cases h

-- ========================================================== anchoring

/-- What is left after one group of flags, if the text begins with one. -/
def afterFlagGroup? : Text → Option Text
  | '(' :: '?' :: r =>
    let letters := r.takeWhile isLetter
    match letters, r.dropWhile isLetter with
    | _ :: _, ')' :: rest => some rest
    | _, _ => none
  | _ => none
where
  /-- The flag letters that may stand in front of an anchor. -/
  isLetter (c : Char) : Bool :=
    ['a', 'i', 'L', 'm', 's', 'u', 'x'].contains c

theorem length_of_afterFlagGroup? {t r : Text}
    (h : afterFlagGroup? t = some r) : r.length < t.length := by
  unfold afterFlagGroup? at h
  split at h
  · next r' =>
    dsimp only at h
    split at h
    · next hd =>
      cases h
      have := congrArg List.length hd
      have hle := (List.dropWhile_suffix
        (l := r') afterFlagGroup?.isLetter).length_le
      simp only [List.length_cons] at this ⊢
      omega
    · cases h
  · cases h

/-- What is left after the groups of flags that a text begins with. -/
def afterFlagGroups (t : Text) : Text :=
  match h : afterFlagGroup? t with
  | none => t
  | some r =>
    have := length_of_afterFlagGroup? h
    afterFlagGroups r
termination_by t.length

/-- The text of a pattern with an anchor written into it. -/
def anchoredText (t : Text) : Text :=
  let rest := afterFlagGroups t
  let flags := t.take (t.length - rest.length)
  flags ++ "^(?:".toList ++ rest ++ [')']

/-- The pattern that matches only at the start of a text. -/
def anchor (p : Pattern) : Except Rejection Pattern :=
  compile (anchoredText p.text) p.flags

end Pattern

namespace Regex

-- ========================================================= given texts

/-- The characters that are not written as they are. -/
def specials : List Char :=
  ['(', ')', '[', ']', '\x7b', '\x7d', '?', '*', '+', '-', '|', '^', '$',
   '\\', '.', '&', '~', '#', ' ', '\t', '\n', '\r', '\x0b', '\x0c']

def isSpecial (c : Char) : Bool :=
  specials.contains c

/-- A pattern that matches just this text. -/
def literal (t : Text) : Text :=
  t.flatMap fun c => if isSpecial c then ['\\', c] else [c]

@[simp] theorem literal_nil : literal [] = [] := rfl

theorem literal_append (s t : Text) :
    literal (s ++ t) = literal s ++ literal t := by
  simp [literal]

end Regex

end Highlight
