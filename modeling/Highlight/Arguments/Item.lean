/-
What one argument is, seen alone: a plain word, the separator behind
which everything is a word, or options.

An option may be abbreviated, as long as no other one begins in the same
way, and may hold its value behind an equals sign. Short options may be
joined in one argument; the first one that takes a value has the rest of
the argument as its value. An option that holds the separator as its
value is given nothing. An argument with a dash that names no option is a
word nevertheless if it is a lone dash, looks like a negative number or
holds a blank.
-/
import Highlight.Arguments.Opt
import Highlight.Text.Quoted
import Highlight.Unicode.Class

namespace Highlight.Arguments

/-- What is wrong with the arguments. -/
inductive UsageError where
  /-- An abbreviation that several options share. -/
  | ambiguous (word : String) (options : List Opt)
  /-- An option without the value it takes. -/
  | missingValue (o : Opt)
  /-- A switch with a value. -/
  | ignoredValue (o : Opt) (value : Text)
  /-- Arguments that nothing takes. -/
  | unrecognized (words : List String)
deriving DecidableEq, Repr

def UsageError.message : UsageError → String
  | ambiguous word options =>
    s!"ambiguous option: {word} could match "
      ++ ", ".intercalate (options.map Opt.long)
  | missingValue o => s!"argument {o.shown}: expected one argument"
  | ignoredValue o value =>
    s!"argument {o.shown}: ignored explicit argument "
      ++ .ofList (Text.quoted value)
  | unrecognized words =>
    "unrecognized arguments: " ++ " ".intercalate words

/-- The value of an option. -/
inductive Given where
  | word (w : String)
  | nothing
deriving DecidableEq, Repr

/-- The value that an argument holds for one of its options. Two dashes
end the options also where a value is expected, so they are no value. -/
def Given.ofText (t : Text) : Given :=
  if t = ['-', '-'] then .nothing else .word (.ofList t)

/-- The word that was given, if there was one. -/
def Given.word? : Given → Option String
  | .word w => some w
  | .nothing => none

inductive Item where
  | word (w : String)
  | separator
  /-- Switches joined in one argument, and the option after them with the
  value that the argument holds for it. -/
  | options (switches : List Opt) (last : Opt) (value : Option Given)
  /-- Like an option, but none that there is. -/
  | unknown (w : String)
  /-- An option that is used in a wrong way. -/
  | misused (e : UsageError)
deriving DecidableEq, Repr

namespace Item

/-- Short options in one argument: some switches, an option behind them,
and a text behind that, which is its value or, behind a switch, further
options. -/
def ofJoined (before : List Opt) (o : Opt) (t : Text) : Item :=
  if o.takesValue then .options before o (some (.ofText t))
  else
    match t with
    | [] => .misused (.ignoredValue o [])
    | c :: v =>
      match Opt.ofShort? c, v with
      | none, _ => .misused (.ignoredValue o (c :: v))
      | some next, [] => .options (before ++ [o]) next none
      | some next, v => ofJoined (before ++ [o]) next v

/-- A short option and the text behind it. An equals sign parts the two,
and may be left out. -/
def ofShort (o : Opt) (t : Text) : Item :=
  match t with
  | [] => .options [] o none
  | '=' :: v => ofJoined [] o v
  | v => ofJoined [] o v

/-- A long option, with the value behind its equals sign. -/
def ofLong (o : Opt) (value : Option Text) : Item :=
  if o.takesValue then .options [] o (value.map Given.ofText)
  else
    match value with
    | none => .options [] o none
    | some v => .misused (.ignoredValue o v)

/-- A dash and a number, perhaps with a point, perhaps before the end of
a line. -/
def looksNegative (t : Text) : Bool :=
  let isDigit (c : Char) := (Unicode.decimal? c.toNat).isSome
  match t with
  | '-' :: t =>
    let rest := t.dropWhile isDigit
    let whole := t.takeWhile isDigit
    let ends (t : Text) := t == [] || t == ['\n']
    (whole ≠ [] && ends rest)
      || match rest with
        | '.' :: t => t.takeWhile isDigit ≠ [] && ends (t.dropWhile isDigit)
        | _ => false
  | _ => false

/-- An argument with a dash that names no option. -/
def ofUnknown (w : String) : Item :=
  if looksNegative w.toList || w.toList.contains ' ' then .word w
  else .unknown w

/-- An argument with two dashes and more. -/
def ofDoubleDash (w : String) : Except UsageError Item :=
  let name := w.toList.takeWhile (· != '=')
  let value := (w.toList.dropWhile (· != '=')).tail?
  match Opt.ofLong? name with
  | some o => .ok (ofLong o value)
  | none =>
    match Opt.abbreviated name with
    | [] => .ok (ofUnknown w)
    | [o] => .ok (ofLong o value)
    | os => .error (.ambiguous w os)

/-- What an argument is. -/
def ofArgument (w : String) : Except UsageError Item :=
  match w.toList with
  | ['-', '-'] => .ok .separator
  | '-' :: '-' :: _ => ofDoubleDash w
  | '-' :: c :: t =>
    match Opt.ofShort? c with
    | some o => .ok (ofShort o t)
    | none => .ok (ofUnknown w)
  | _ => .ok (.word w)

/-- What the arguments are; behind the separator all are words. -/
def ofArguments : List String → Except UsageError (List Item)
  | [] => .ok []
  | w :: more => do
    match ← ofArgument w with
    | .separator => .ok (.separator :: more.map .word)
    | item => .ok (item :: (← ofArguments more))

end Item

end Highlight.Arguments
