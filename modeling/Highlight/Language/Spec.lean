/-
What is said about a language, before it is turned into rules: words of
three kinds, the strings and comments it has, and rules of its own.

Faults of a language carry their cause. A fault that lies in one rule
names the rule, and one that lies in a pattern quotes it.
-/
import Highlight.Rule
import Highlight.Diagnostic

namespace Highlight

/-- A language by its lexical elements. -/
structure Spec where
  keywords : Option (List Text) := none
  constants : Option (List Text) := none
  builtins : Option (List Text) := none
  doubleString : Bool := false
  singleString : Bool := false
  commentDelimiter : Option Text := none
  /-- Rules that come before all others, in this order. -/
  rules : List Rule := []
deriving DecidableEq, Repr

namespace Spec

/-- Why a language is refused. -/
inductive Cause where
  | notTable
  | unknownKey (key : String)
  | badWords (key : String)
  | badFlag (key : String)
  | badDelimiter
  | badRules
  | ruleNotTable
  | unknownRuleKey (key : String)
  | badLabel
  | badIgnoreCase
  | patternAndEnds
  | noPattern
  | emptyPattern
  | badPattern (f : Regex.Fault)
  | matchesEmpty
deriving DecidableEq, Repr

def Cause.message : Cause → String
  | notTable => "language definition must be a table"
  | unknownKey key => s!"unknown key '{key}'"
  | badWords key => s!"'{key}' must be a list of non-empty strings"
  | badFlag key => s!"'{key}' must be true or false"
  | badDelimiter => "'comment_delimiter' must be a non-empty string"
  | badRules => "'rules' must be an array of tables"
  | ruleNotTable => "rule must be a table"
  | unknownRuleKey key => s!"unknown rule key '{key}'"
  | badLabel => "'class' must be a non-empty string"
  | badIgnoreCase => "'ignore_case' must be true or false"
  | patternAndEnds => "rule has both 'pattern' and 'start'/'end'"
  | noPattern => "rule needs 'pattern' or both 'start' and 'end'"
  | emptyPattern => "pattern must be a non-empty string"
  | badPattern f => "invalid pattern: " ++ f.message
  | matchesEmpty => "rule matches empty text"

/-- A fault of a language and where it lies. -/
structure Fault where
  cause : Cause
  language : String
  /-- The number of the rule, if one is to blame. -/
  rule : Option Nat := none
  pattern : Option Text := none
  column : Option Nat := none
deriving DecidableEq, Repr

open Diagnostic in
def Fault.report (f : Fault) : LanguageReport where
  message := f.cause.message
  language := f.language
  rule := f.rule.map Int.ofNat
  pattern := f.pattern
  column := f.column.map Int.ofNat

def Fault.text (f : Fault) : String :=
  f.report.text

/-- Why no rules can be had from a description: the language is at fault,
or a pattern goes beyond what the language can be blamed for. -/
inductive Failure where
  | language (f : Fault)
  | pattern (r : Regex.Rejection)
deriving DecidableEq, Repr

end Spec

end Highlight
