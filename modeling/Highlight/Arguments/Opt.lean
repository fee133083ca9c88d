/-
The options of the command line: how each is spelled, whether it takes a
value, and which options a given beginning of a spelling could mean.
-/
import Highlight.Text.Basic

namespace Highlight.Arguments

inductive Opt where
  | help
  | output
  | language
  | config
  | lineNumbers
  | standalone
  | noEscape
  | listLanguages
  | watch
  | debug
deriving DecidableEq, Repr

namespace Opt

/-- All options, in the order in which they are listed. -/
def all : List Opt :=
  [help, output, language, config, lineNumbers, standalone, noEscape,
   listLanguages, watch, debug]

/-- The spelling with one dash and one letter, which some options have. -/
def short? : Opt → Option Char
  | help => some 'h'
  | output => some 'o'
  | language => some 'l'
  | _ => none

/-- The spelling with two dashes, which every option has. -/
def long : Opt → String
  | help => "--help"
  | output => "--output"
  | language => "--language"
  | config => "--config"
  | lineNumbers => "--line-numbers"
  | standalone => "--standalone"
  | noEscape => "--no-escape"
  | listLanguages => "--list-languages"
  | watch => "--watch"
  | debug => "--debug"

/-- An option either takes a value or is a switch. -/
def takesValue : Opt → Bool
  | output | language | config => true
  | _ => false

/-- The option in a message, with both spellings. -/
def shown (o : Opt) : String :=
  match o.short? with
  | none => o.long
  | some c => .ofList ['-', c, '/'] ++ o.long

/-- The option with a short spelling. -/
def ofShort? (c : Char) : Option Opt :=
  all.find? (·.short? == some c)

/-- The option with exactly this long spelling. -/
def ofLong? (t : Text) : Option Opt :=
  all.find? (·.long.toList == t)

/-- The options whose long spelling begins in this way. -/
def abbreviated (t : Text) : List Opt :=
  all.filter fun o => t.isPrefixOf o.long.toList

end Opt

end Highlight.Arguments
