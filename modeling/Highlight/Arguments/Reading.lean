/-
The arguments as a whole: what was asked for.

The arguments are read from left to right. The first plain word is the
input, and the separator on either side of it is skipped; an option
without a value of its own takes the word that follows it. Help is given
as soon as it is asked for, and an option that is used in a wrong way
ends the reading in the same way. What nothing takes is collected and is
an error only at the end, so an earlier request for help comes first.

An abbreviation that could mean several options is found before all this,
wherever it stands.
-/
import Highlight.Arguments.Item

namespace Highlight

/-- What was asked for on the command line. -/
structure Arguments where
  input : Option String := none
  output : Option String := none
  language : Option Arguments.Given := none
  config : Option String := none
  lineNumbers : Bool := false
  standalone : Bool := false
  noEscape : Bool := false
  listLanguages : Bool := false
  watch : Bool := false
  debug : Bool := false
deriving DecidableEq, Repr

namespace Arguments

/-- Why there is nothing to do. -/
inductive Stop where
  | help
  | usage (e : UsageError)
deriving DecidableEq, Repr

/-- The arguments with a value given to an option. -/
def withValue (a : Arguments) (o : Opt) (v : Given) : Arguments :=
  match o with
  | .output => { a with output := v.word? }
  | .language => { a with language := some v }
  | .config => { a with config := v.word? }
  | _ => a

/-- The arguments with a switch turned on. -/
def switched (a : Arguments) : Opt → Except Stop Arguments
  | .help => .error .help
  | .lineNumbers => .ok { a with lineNumbers := true }
  | .standalone => .ok { a with standalone := true }
  | .noEscape => .ok { a with noEscape := true }
  | .listLanguages => .ok { a with listLanguages := true }
  | .watch => .ok { a with watch := true }
  | .debug => .ok { a with debug := true }
  | _ => .ok a

/-- What was read so far. -/
structure Reading where
  arguments : Arguments := {}
  /-- Nothing has been taken as the input yet. -/
  inputOpen : Bool := true
  /-- What nothing took. -/
  left : List String := []

namespace Reading

def withInput (r : Reading) (w : String) : Reading :=
  { r with
    arguments := { r.arguments with input := some w }, inputOpen := false }

def leaving (r : Reading) (w : String) : Reading :=
  { r with left := r.left ++ [w] }

/-- The reading with switches turned on and an option given its value. -/
def withOptions (r : Reading) (switches : List Opt) (o : Opt)
    (value : Option Given) : Except Stop Reading := do
  let a ← switches.foldlM switched r.arguments
  match value with
  | some v => .ok { r with arguments := a.withValue o v }
  | none => .ok { r with arguments := ← a.switched o }

/-- Reads on through the arguments. -/
def through (r : Reading) : List Item → Except Stop Reading
  | [] => .ok r
  | .word w :: .separator :: more =>
    if r.inputOpen then (r.withInput w).through more
    else ((r.leaving w).leaving "--").through more
  | .word w :: more =>
    if r.inputOpen then (r.withInput w).through more
    else (r.leaving w).through more
  | .separator :: .word w :: more =>
    if r.inputOpen then (r.withInput w).through more
    else ((r.leaving "--").leaving w).through more
  | .separator :: more =>
    if r.inputOpen then r.through more
    else (r.leaving "--").through more
  | .unknown w :: more => (r.leaving w).through more
  | .misused e :: _ => .error (.usage e)
  | .options switches o (some v) :: more => do
    (← r.withOptions switches o (some v)).through more
  | .options switches o none :: more =>
    if o.takesValue then
      match more with
      | .word w :: more => do
        (← r.withOptions switches o (some (.word w))).through more
      | _ => .error (.usage (.missingValue o))
    else do
      (← r.withOptions switches o none).through more

end Reading

/-- Reads the arguments of a command line. -/
def read (words : List String) : Except Stop Arguments := do
  let items ← (Item.ofArguments words).mapError .usage
  let r ← Reading.through {} items
  match r.left with
  | [] => .ok r.arguments
  | left => .error (.usage (.unrecognized left))

end Arguments

end Highlight
