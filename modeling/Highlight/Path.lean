/-
Paths of files, as they are written. Empty parts and parts of one dot are
dropped, so the text of a path is shorter than what was typed, but two
dots are kept. A path is relative or begins at a root; exactly two
slashes make a root of their own.
-/
import Highlight.Text.Basic

namespace Highlight

structure Path where
  /-- The slashes at the start. -/
  root : String
  parts : List String
deriving DecidableEq, Repr

namespace Path

/-- The root that some slashes at the start make. -/
def rootOf (t : Text) : String :=
  match (t.takeWhile (· == '/')).length with
  | 0 => ""
  | 2 => "//"
  | _ => "/"

def ofText (t : Text) : Path where
  root := rootOf t
  parts :=
    ((Text.cut '/' t).filter fun p => p ≠ [] ∧ p ≠ ['.']).map String.ofList

/-- The path as it is shown. -/
def text (p : Path) : String :=
  if p.root = "" ∧ p.parts = [] then "."
  else p.root ++ "/".intercalate p.parts

/-- The path without its last part. -/
def parent (p : Path) : Path :=
  { p with parts := p.parts.dropLast }

/-- The last part; a bare root has none. -/
def name (p : Path) : String :=
  p.parts.getLast?.getD ""

/-- The path with one more part. -/
def child (p : Path) (part : String) : Path :=
  { p with parts := p.parts ++ [part] }

/-- The ending of a file name from its last dot on. A dot at the start or
at the end of the name begins no ending. -/
def suffix (p : Path) : Text :=
  let reversed := p.name.toList.reverse
  let ending := reversed.takeWhile (· != '.')
  let rest := reversed.drop (ending.length + 1)
  if ending.length < reversed.length ∧ ending ≠ [] ∧ rest ≠ [] then
    '.' :: ending.reverse
  else
    []

end Path

end Highlight
