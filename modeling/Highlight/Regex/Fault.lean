/-
What can be wrong with a pattern, and how it is reported.

A fault names a cause; `Fault.message` words it. Most faults have a place
in the pattern, given as an offset; the ones that are found only when the
whole tree is there have none.
-/
import Highlight.Text.Quoted

namespace Highlight.Regex

inductive Fault where
  -- escapes
  | loneBackslash
  | badEscape (written : Text)
  | shortEscape (written : Text)
  | bigOctal (written : Text)
  | unnamedCharacter
  | unknownCharacter (name : Text)
  -- names
  | missingName (what : String)
  | openName (closing : Char)
  | badName (name : Text)
  | unknownName (name : Text)
  | takenName (name : Text) (number earlier : Nat)
  -- references
  | groupZero
  | noSuchGroup (number : Nat)
  | openGroup
  | groupInSameLookBehind
  -- sets and repetition
  | openSet
  | badRange (lo hi : Text)
  | nothingToRepeat
  | repeatedRepeat
  | boundsCrossed
  -- groups
  | openSubpattern
  | strayParenthesis
  | thirdBranch
  | openComment
  | cutShort
  | unknownExtension (written : Text)
  -- flags inside the pattern
  | lateFlags
  | unknownFlag
  | missingFlag
  | missingFlagEnd
  | missingColon
  | localeFlag
  | alphabetsClash
  | alphabetOff
  | globalOn
  | globalOff
  | onAndOff
  -- the finished pattern
  | variableLookBehind
  | repeatInTemplate (operator : String)
deriving DecidableEq, Repr

/-- The wording of a fault. -/
def Fault.message : Fault → String
  | loneBackslash => "bad escape (end of pattern)"
  | badEscape w => "bad escape " ++ .ofList w
  | shortEscape w => "incomplete escape " ++ .ofList w
  | bigOctal w =>
    "octal escape value " ++ .ofList w ++ " outside of range 0-0o377"
  | unnamedCharacter => "missing \x7b"
  | unknownCharacter n =>
    "undefined character name " ++ .ofList (Text.quoted n)
  | missingName what => "missing " ++ what
  | openName closing =>
    "missing " ++ closing.toString ++ ", unterminated name"
  | badName n => "bad character in group name " ++ .ofList (Text.quoted n)
  | unknownName n => "unknown group name " ++ .ofList (Text.quoted n)
  | takenName n number earlier =>
    "redefinition of group name " ++ .ofList (Text.quoted n)
      ++ " as group " ++ toString number
      ++ "; was group " ++ toString earlier
  | groupZero => "bad group number"
  | noSuchGroup number => "invalid group reference " ++ toString number
  | openGroup => "cannot refer to an open group"
  | groupInSameLookBehind =>
    "cannot refer to group defined in the same lookbehind subpattern"
  | openSet => "unterminated character set"
  | badRange lo hi =>
    "bad character range " ++ .ofList lo ++ "-" ++ .ofList hi
  | nothingToRepeat => "nothing to repeat"
  | repeatedRepeat => "multiple repeat"
  | boundsCrossed => "min repeat greater than max repeat"
  | openSubpattern => "missing ), unterminated subpattern"
  | strayParenthesis => "unbalanced parenthesis"
  | thirdBranch => "conditional backref with more than two branches"
  | openComment => "missing ), unterminated comment"
  | cutShort => "unexpected end of pattern"
  | unknownExtension w => "unknown extension " ++ .ofList w
  | lateFlags => "global flags not at the start of the expression"
  | unknownFlag => "unknown flag"
  | missingFlag => "missing flag"
  | missingFlagEnd => "missing -, : or )"
  | missingColon => "missing :"
  | localeFlag =>
    "bad inline flags: cannot use 'L' flag with a str pattern"
  | alphabetsClash =>
    "bad inline flags: flags 'a', 'u' and 'L' are incompatible"
  | alphabetOff =>
    "bad inline flags: cannot turn off flags 'a', 'u' and 'L'"
  | globalOn => "bad inline flags: cannot turn on global flag"
  | globalOff => "bad inline flags: cannot turn off global flag"
  | onAndOff => "bad inline flags: flag turned on and off"
  | variableLookBehind => "look-behind requires fixed-width pattern"
  | repeatInTemplate operator =>
    "internal: unsupported template operator " ++ operator

/-- Why a pattern is rejected. -/
inductive Rejection where
  /-- Its text is at fault, at an offset if the fault has a place. -/
  | fault (f : Fault) (place : Option Nat)
  /-- The flags exclude each other. -/
  | flagsClash
  /-- A count of iterations exceeds every limit. -/
  | overflow
  /-- A count of iterations has too many digits to be read. -/
  | longCount
  /-- A look-behind reaches back too far. -/
  | farLookBehind
  /-- Parentheses are nested too deep. -/
  | tooDeep
deriving DecidableEq, Repr

/-- The place of a fault in words: the offset, and for a pattern of
several lines the line and the column too. -/
def placeText (pattern : Text) (place : Nat) : String :=
  let passed := pattern.take place
  let column := (passed.reverse.takeWhile (· != '\n')).length + 1
  if '\n' ∈ pattern then
    " at position " ++ toString place
      ++ " (line " ++ toString (Text.lineFeeds passed + 1)
      ++ ", column " ++ toString column ++ ")"
  else
    " at position " ++ toString place

/-- The full report of a fault in a pattern. -/
def Fault.report (pattern : Text) (f : Fault) (place : Option Nat) :
    String :=
  f.message ++ (place.map (placeText pattern)).getD ""

end Highlight.Regex
