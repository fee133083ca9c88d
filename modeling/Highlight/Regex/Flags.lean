/-
The flags of a pattern. A flag has one letter, used when flags are given
beside a pattern and inside one, as in `(?im)` or `(?i-s:…)`.

Three of the flags choose the alphabet and exclude each other: ASCII only,
the full character set, and the locale's. A group that names one of them
drops the others.
-/

namespace Highlight.Regex

inductive Flag where
  | ascii
  | ignoreCase
  | locale
  | multiLine
  | dotAll
  | unicode
  | verbose
  | template
deriving DecidableEq, Repr

/-- The letter of a flag. -/
def Flag.letter : Flag → Char
  | .ascii => 'a'
  | .ignoreCase => 'i'
  | .locale => 'L'
  | .multiLine => 'm'
  | .dotAll => 's'
  | .unicode => 'u'
  | .verbose => 'x'
  | .template => 't'

def Flag.ofLetter? : Char → Option Flag
  | 'a' => some .ascii
  | 'i' => some .ignoreCase
  | 'L' => some .locale
  | 'm' => some .multiLine
  | 's' => some .dotAll
  | 'u' => some .unicode
  | 'x' => some .verbose
  | 't' => some .template
  | _ => none

/-- Whether the flag chooses the alphabet. -/
def Flag.choosesAlphabet : Flag → Bool
  | .ascii | .locale | .unicode => true
  | _ => false

/-- A set of flags. -/
structure Flags where
  ascii : Bool := false
  ignoreCase : Bool := false
  locale : Bool := false
  multiLine : Bool := false
  dotAll : Bool := false
  unicode : Bool := false
  verbose : Bool := false
  template : Bool := false
deriving DecidableEq, Repr

namespace Flags

def none : Flags := {}

def has (s : Flags) : Flag → Bool
  | .ascii => s.ascii
  | .ignoreCase => s.ignoreCase
  | .locale => s.locale
  | .multiLine => s.multiLine
  | .dotAll => s.dotAll
  | .unicode => s.unicode
  | .verbose => s.verbose
  | .template => s.template

def insert (s : Flags) : Flag → Flags
  | .ascii => { s with ascii := true }
  | .ignoreCase => { s with ignoreCase := true }
  | .locale => { s with locale := true }
  | .multiLine => { s with multiLine := true }
  | .dotAll => { s with dotAll := true }
  | .unicode => { s with unicode := true }
  | .verbose => { s with verbose := true }
  | .template => { s with template := true }

def union (s t : Flags) : Flags where
  ascii := s.ascii || t.ascii
  ignoreCase := s.ignoreCase || t.ignoreCase
  locale := s.locale || t.locale
  multiLine := s.multiLine || t.multiLine
  dotAll := s.dotAll || t.dotAll
  unicode := s.unicode || t.unicode
  verbose := s.verbose || t.verbose
  template := s.template || t.template

def minus (s t : Flags) : Flags where
  ascii := s.ascii && !t.ascii
  ignoreCase := s.ignoreCase && !t.ignoreCase
  locale := s.locale && !t.locale
  multiLine := s.multiLine && !t.multiLine
  dotAll := s.dotAll && !t.dotAll
  unicode := s.unicode && !t.unicode
  verbose := s.verbose && !t.verbose
  template := s.template && !t.template

/-- Whether some flag is in both sets. -/
def meets (s t : Flags) : Bool :=
  (s.ascii && t.ascii) || (s.ignoreCase && t.ignoreCase)
    || (s.locale && t.locale) || (s.multiLine && t.multiLine)
    || (s.dotAll && t.dotAll) || (s.unicode && t.unicode)
    || (s.verbose && t.verbose) || (s.template && t.template)

/-- The flags that choose an alphabet. -/
def alphabets : Flags :=
  { ascii := true, locale := true, unicode := true }

/-- Whether the set names two alphabets. -/
def alphabetsClash (s : Flags) : Bool :=
  (s.ascii && s.locale) || (s.ascii && s.unicode)
    || (s.locale && s.unicode)

/-- The flags in force inside a group that turns some on and some off. -/
def within (outer on off : Flags) : Flags :=
  let kept := if on.meets alphabets then outer.minus alphabets else outer
  (kept.union on).minus off

/-- The flags shown in answers, in the order of their letters. -/
def shown : List Flag :=
  [.ascii, .ignoreCase, .locale, .multiLine, .dotAll, .unicode, .verbose]

def letters (s : Flags) : List Char :=
  (shown.filter s.has).map Flag.letter

/-- The set with these letters; letters of no flag are passed over. -/
def ofLetters (cs : List Char) : Flags :=
  (cs.filterMap Flag.ofLetter?).foldl insert none

end Flags

end Highlight.Regex
