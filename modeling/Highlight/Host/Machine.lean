/-
A machine as a value: a tree of files with a working directory, an input
that is known in full, and what has been put out and noted so far, with the
pauses that were made.

The name of a file and the standard input may hold bytes that are no text.
They are decoded all the same, to characters that stand for them
(`strays`); but a text with such a character has no bytes of its own, and
cannot be written to a file.
-/
import Highlight.Host.FileTree

namespace Highlight

structure Machine where
  tree : FileTree
  /-- The working directory, from which relative paths lead. -/
  here : Place
  /-- The standard input as it is decoded; none if its bytes are no
  text. -/
  input : Option Text := some []
  output : Text := []
  notes : String := ""
  /-- The pauses so far, in milliseconds. -/
  slept : List Nat := []
  /-- The characters that stand for bytes that are no text. -/
  strays : List Char := []
  /-- The characters that have no bytes in the output. -/
  refused : List Char := []
deriving DecidableEq, Repr

namespace Machine

/-- The place that a path leads to. -/
def place (m : Machine) (p : Path) : Except FileCause Place :=
  if p.parts.any (·.contains '\x00') then .error .zeroByte
  else if FileTree.longestPath < p.text.utf8ByteSize then
    .error .nameTooLong
  else m.tree.follow (if p.root = "" then m.here else []) p.parts

/-- The node that a path leads to. -/
def node (m : Machine) (p : Path) : Except FileCause FileNode := do
  match m.tree.node? (← m.place p) with
  | some n => .ok n
  | none => .error .missing

def read (m : Machine) (p : Path) : Except FileCause Bytes := do
  match ← m.node p with
  | .file content _ => .ok content
  | .directory _ => .error .isDirectory

/-- The bytes of a text in a file, if there are any. -/
def encode? (m : Machine) (t : Text) : Option Bytes :=
  if t.any (· ∈ m.strays) then none else some (Utf8.encode t)

/-- The machine when a file has been opened for a text: it holds the text,
or nothing if there are no bytes for it. -/
def written (m : Machine) (p : Path) (t : Text) :
    Except FileCause Machine := do
  let place ← m.place p
  match m.tree.node? place with
  | some (.directory _) => .error .isDirectory
  | _ => .ok { m with
      tree := m.tree.putFile place ((m.encode? t).getD []) }

/-- The machine when more has been put out. -/
def printed (m : Machine) (t : Text) : Machine :=
  { m with output := m.output ++ t }

/-- The machine when the user has been told more. -/
def noted (m : Machine) (note : String) : Machine :=
  { m with notes := m.notes ++ note }

/-- The machine behind one more pause. -/
def rested (m : Machine) (milliseconds : Nat) : Machine :=
  { m with slept := m.slept ++ [milliseconds] }

/-- Says which path an error is about. -/
def about {α : Type} (p : Path) (r : Except FileCause α) :
    Except FileError α :=
  r.mapError fun cause => { cause, path := p }

instance : Host (StateM Machine) where
  read p := do return about p ((← get).read p)
  changed p := do return about p (((← get).node p).map FileNode.changed)
  write p t := do
    let m ← get
    match m.written p t with
    | .error cause => return .error (.file { cause, path := p })
    | .ok opened =>
      set opened
      return if (m.encode? t).isSome then .ok () else .error .unencodable
  input := do return (← get).input
  out t := do
    let m ← get
    if t.any (· ∈ m.refused) then return .error .unencodable
    else
      set (m.printed t)
      return .ok ()
  print s := modify (·.printed s.toList)
  note s := modify (·.noted s)
  sleep n := modify (·.rested n)

end Machine

end Highlight
