/-
Values of a configuration: what a document or a data structure may hold.
Tables keep their entries in the order in which they were written.

Where a value is used as a name it is shown as text (`shown`): a string
as it is, a moment by its fields, everything else in a fixed notation.
Inside a list or a table strings are quoted and moments are expressions
(`literal`). A value with a whole number of too many digits in it cannot
be shown (`isShowable`).
-/
import Highlight.Config.Moment
import Highlight.Text.Digits
import Highlight.Number.Shortest
import Highlight.Text.Quoted

namespace Highlight.Config

inductive Value where
  | null
  | bool (b : Bool)
  | int (n : Int)
  | float (x : Binary64)
  | string (s : String)
  | moment (m : Moment)
  | list (vs : List Value)
  | table (entries : List (String × Value))
deriving Inhabited, Repr

/-- A table by its entries. -/
abbrev Table := List (String × Value)

namespace Value

mutual

/-- The value as it stands inside a list or a table. -/
def literal : Value → Text
  | .null => "None".toList
  | .bool b => (if b then "True" else "False").toList
  | .int n => (toString n).toList
  | .float x => x.text
  | .string s => Text.quoted s.toList
  | .moment m => m.literal
  | .list vs => '[' :: literals vs ++ [']']
  | .table es => '\x7b' :: entryLiterals es ++ ['\x7d']

/-- The values of a list with commas between them. -/
def literals : List Value → Text
  | [] => []
  | [v] => literal v
  | v :: vs => literal v ++ ", ".toList ++ literals vs

/-- The entries of a table with commas between them. -/
def entryLiterals : List (String × Value) → Text
  | [] => []
  | [(k, v)] => Text.quoted k.toList ++ ": ".toList ++ literal v
  | (k, v) :: es =>
    Text.quoted k.toList ++ ": ".toList ++ literal v ++ ", ".toList
      ++ entryLiterals es

end

mutual

/-- Whether every whole number in the value can be written. -/
def isShowable : Value → Bool
  | .int n => isWritable n
  | .list vs => areShowable vs
  | .table es => entriesShowable es
  | _ => true

/-- Whether all values of a list can be shown. -/
def areShowable : List Value → Bool
  | [] => true
  | v :: vs => isShowable v && areShowable vs

/-- Whether all values of a table can be shown. -/
def entriesShowable : List (String × Value) → Bool
  | [] => true
  | (_, v) :: es => isShowable v && entriesShowable es

end

/-- The value as a name. -/
def shown : Value → Text
  | .string s => s.toList
  | .moment m => m.shown
  | v => literal v

end Value

end Highlight.Config
