/-
Sets of characters: what one place of a pattern may stand for. A place is
a dot, a single character, or a list of members such as `[a-z\d]`; a
class on its own is a list of one member.

# Letter case

A character is cased if it has another form in the other case. When case
is ignored, a set without cased characters is still compared as it is
written: its fold is then `exact`. Otherwise the text is brought to lower
case first. A single character and the members of a list then stand for
all characters that differ from them in case only.

Beyond the basic plane a list knows less. A single member there is
compared with the lower-case text as it is written, so that a capital
finds nothing, and a range that ends there also holds what its upper-case
form brings into it.
-/
import Highlight.Unicode.Class
import Highlight.Unicode.Case

namespace Highlight.Regex

/-- The classes that have a letter of their own in patterns. -/
inductive Category where
  | digit
  | space
  | word
deriving DecidableEq, Repr

/-- Whether a code point is in the class, over all scripts or in ASCII. -/
def Category.mem (ascii : Bool) (n : Nat) : Category → Bool
  | .digit =>
    if ascii then Unicode.asciiDigits.mem n else Unicode.decimals.mem n
  | .space =>
    if ascii then Unicode.asciiBlanks.mem n else Unicode.blanks.mem n
  | .word =>
    if ascii then Unicode.asciiWord.mem n else Unicode.isWord n

-- ======================================================== letter case

/-- How far letter case is ignored. -/
inductive Fold where
  | exact
  | ascii
  | unicode
deriving DecidableEq, Repr

namespace Fold

/-- The characters that are as good as this one. -/
def variants : Fold → Nat → List Nat
  | .exact, n => [n]
  | .ascii, n => Unicode.asciiVariants n
  | .unicode, n => Unicode.variants n

/-- The form in which two characters are compared with one another. -/
def lower : Fold → Nat → Nat
  | .exact, n => n
  | .ascii, n => if 0x41 ≤ n && n ≤ 0x5A then n + 0x20 else n
  | .unicode, n => Unicode.lower n

/-- The other lower-case letters that share a capital with this one. -/
def siblings : Fold → Nat → List Nat
  | .unicode, n => Unicode.siblings n
  | _, _ => []

/-- Whether two characters differ in case at most. -/
def same (fold : Fold) (m n : Nat) : Bool :=
  fold.lower m == fold.lower n
    || (fold.siblings (fold.lower n)).contains (fold.lower m)

/-- Whether a character has another form in the other case. -/
def isCased : Fold → Nat → Bool
  | .exact, _ => false
  | .ascii, n => (0x41 ≤ n && n ≤ 0x5A) || (0x61 ≤ n && n ≤ 0x7A)
  | .unicode, n => Unicode.isCased n

/-- Whether a character of a range is cased. -/
def anyCased : Fold → Nat → Nat → Bool
  | .exact, _, _ => false
  | .ascii, lo, hi =>
    max lo 0x41 ≤ min hi 0x5A || max lo 0x61 ≤ min hi 0x7A
  | .unicode, lo, hi => Unicode.anyCased lo hi

/-- The fold if there is need of it. -/
def ifNeeded (fold : Fold) (needed : Bool) : Fold :=
  if needed then fold else .exact

end Fold

-- ============================================================ members

/-- One member of a list, by code points. -/
inductive Member where
  | char (n : Nat)
  | range (lo hi : Nat)
  | category (c : Category) (negated : Bool)
deriving DecidableEq, Repr

/-- Characters from here on lie beyond the basic plane. -/
def astral : Nat := 0x10000

namespace Member

/-- Whether the member holds a character as it stands. -/
def mem (ascii : Bool) (n : Nat) : Member → Bool
  | .char m => n == m
  | .range lo hi => lo ≤ n && n ≤ hi
  | .category c negated => c.mem ascii n != negated

/-- Whether the member holds a character that is in lower case. -/
def memFolded (fold : Fold) (ascii : Bool) (n : Nat) : Member → Bool
  | .char m => if m < astral then fold.same n m else n == m
  | .range lo hi =>
    (fold.variants n).any (fun v => lo ≤ v && v ≤ hi && v < astral)
      || (astral ≤ hi
        && (within lo hi n || within lo hi (Unicode.upper n)))
  | .category c negated => c.mem ascii n != negated
where
  within (lo hi n : Nat) : Bool := lo ≤ n && n ≤ hi

/-- Whether a list with this member is compared in lower case. -/
def needsFold (fold : Fold) : Member → Bool
  | .char n => astral ≤ n || fold.isCased n
  | .range lo hi => astral ≤ hi || fold.anyCased lo hi
  | .category _ _ => false

/-- Whether the member is the same whatever is said about case. -/
def isCaseless (fold : Fold) : Member → Bool
  | .char n => !fold.isCased n
  | .range lo hi => hi < astral && !fold.anyCased lo hi
  | .category _ _ => true

end Member

-- =============================================================== sets

inductive CharSet where
  /-- Every character, or every one that does not end a line. -/
  | dot (lineFeed : Bool)
  /-- One character, or every other one. -/
  | single (n : Nat) (negated : Bool) (fold : Fold)
  /-- What some member holds, or what none holds. -/
  | listed (members : List Member) (negated : Bool) (fold : Fold)
      (ascii : Bool)
deriving DecidableEq, Repr

namespace CharSet

/-- Whether the set holds a character. -/
def mem (c : Char) : CharSet → Bool
  | .dot lineFeed => lineFeed || c != '\n'
  | .single n negated fold => fold.same c.toNat n != negated
  | .listed ms negated .exact ascii =>
    ms.any (·.mem ascii c.toNat) != negated
  | .listed ms negated fold ascii =>
    ms.any (·.memFolded fold ascii (fold.lower c.toNat)) != negated

/-- One character. -/
def char (fold : Fold) (n : Nat) : CharSet :=
  .single n false (fold.ifNeeded (fold.isCased n))

/-- A list of members. -/
def ofList (fold : Fold) (ascii negated : Bool) (ms : List Member) :
    CharSet :=
  .listed ms negated (fold.ifNeeded (ms.any (·.needsFold fold))) ascii

/-- A class or its complement. -/
def ofCategory (ascii : Bool) (c : Category) (negated : Bool) : CharSet :=
  ofList .exact ascii false [.category c negated]

/-- The set that a list in brackets stands for. Each member is kept once;
a single character is just that character. -/
def ofMembers (fold : Fold) (ascii negated : Bool) (ms : List Member) :
    CharSet :=
  match ms.eraseDups with
  | [.char n] => .single n negated (fold.ifNeeded (fold.isCased n))
  | ms => ofList fold ascii negated ms

/-- The one character that the set stands for, if case plays no part. -/
def literal? : CharSet → Option Nat
  | .single n false .exact => some n
  | _ => none

/-- Whether the set is tried on the next character before anything else
is done: a character or a list that is compared as it is written. -/
def isGuard : CharSet → Bool
  | .single _ false .exact => true
  | .listed _ _ .exact _ => true
  | _ => false

/-- Whether counting characters of the set moves the place of rest: they
are counted one by one then. -/
def creeps : CharSet → Bool
  | .dot _ => false
  | .single n _ fold => !(fold.siblings (fold.lower n)).isEmpty
  | .listed _ _ fold _ => fold != .exact

/-- The members of a set that is not negated. -/
def members? : CharSet → Option (List Member)
  | .single n false _ => some [.char n]
  | .listed ms false _ _ => some ms
  | _ => none

theorem mem_char_exact (n : Nat) (c : Char) :
    (char .exact n).mem c = (c.toNat == n) := by
  simp [mem, char, Fold.ifNeeded, Fold.same, Fold.lower, Fold.siblings,
    Fold.isCased]

theorem mem_listed_exact (ms : List Member) (negated ascii : Bool)
    (c : Char) :
    (listed ms negated .exact ascii).mem c
      = (ms.any (·.mem ascii c.toNat) != negated) := rfl

end CharSet

end Highlight.Regex
