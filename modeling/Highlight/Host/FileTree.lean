/-
A tree of files as a value: nodes by their places, and a clock from which
every change takes its time. A directory changes when a name comes into
it or leaves it, and not when the node under a name does.

A path is followed one part after another, as systems do it: every part
but the last has to be a directory, and two dots lead back to the
directory above, which for the root is the root itself.
-/
import Highlight.Entries
import Highlight.Host.Basic

namespace Highlight

/-- A place in a tree: the names from the root down. -/
abbrev Place := List String

/-- A file or a directory, with the time of its last change. -/
inductive FileNode where
  | file (content : Bytes) (changed : Int)
  | directory (changed : Int)
deriving DecidableEq, Repr

namespace FileNode

def isDirectory : FileNode → Bool
  | directory _ => true
  | file .. => false

def changed : FileNode → Int
  | directory t => t
  | file _ t => t

def changedAt (t : Int) : FileNode → FileNode
  | directory _ => directory t
  | file content _ => file content t

end FileNode

structure FileTree where
  /-- All nodes but the root. -/
  nodes : Entries Place FileNode
  clock : Int
deriving DecidableEq, Repr

namespace FileTree

/-- The longest name of a file, in bytes. -/
def longestName : Nat := 255

/-- The longest path that can be followed, in bytes. -/
def longestPath : Nat := 4095

/-- The node at a place; the root is a directory that never changes. -/
def node? (t : FileTree) : Place → Option FileNode
  | [] => some (.directory 0)
  | place => t.nodes.lookup place

/-- The place that some parts lead to from another place. There may be
nothing at it, but the place above it is a directory. -/
def follow (t : FileTree) : Place → List String → Except FileCause Place
  | place, [] => .ok place
  | place, part :: parts =>
    match t.node? place with
    | none => .error .missing
    | some (.file ..) => .error .notDirectory
    | some (.directory _) =>
      if part = ".." then t.follow place.dropLast parts
      else if part.utf8ByteSize > longestName then .error .nameTooLong
      else t.follow (place ++ [part]) parts

/-- Sets the time of the last change of the node at a place. -/
def setChanged (t : FileTree) (place : Place) (time : Int) : FileTree :=
  match t.nodes.lookup place with
  | none => t
  | some n =>
    { t with nodes := Entries.put place (n.changedAt time) t.nodes }

/-- Puts a node at a place. A name that is new there changes the directory
above it. -/
def put (t : FileTree) (place : Place) (n : FileNode) : FileTree :=
  let above :=
    if (t.node? place).isSome then t
    else t.setChanged place.dropLast t.clock
  { nodes := Entries.put place n above.nodes, clock := t.clock + 1 }

/-- Puts a file at a place. -/
def putFile (t : FileTree) (place : Place) (content : Bytes) : FileTree :=
  t.put place (.file content t.clock)

/-- Puts a directory at a place where there is nothing. -/
def makeDirectory (t : FileTree) (place : Place) : FileTree :=
  if (t.node? place).isSome then t
  else t.put place (.directory t.clock)

/-- Takes away the node at a place, which changes the directory above. -/
def remove (t : FileTree) (place : Place) : FileTree :=
  if (t.node? place).isNone then t
  else
    let above := t.setChanged place.dropLast t.clock
    { nodes := Entries.erase place above.nodes, clock := t.clock + 1 }

-- ============================================================= lemmas

@[simp] theorem node?_root (t : FileTree) :
    t.node? [] = some (.directory 0) := rfl

/-- Off the root, a node is what the entries say. -/
theorem node?_of_ne_root (t : FileTree) {place : Place}
    (h : place ≠ []) : t.node? place = t.nodes.lookup place := by
  cases place with
  | nil => exact absurd rfl h
  | cons => rfl

/-- Setting the time of a node changes no other place. -/
theorem node?_setChanged_of_ne (t : FileTree) {place other : Place}
    (h : other ≠ place) (time : Int) :
    (t.setChanged place time).node? other = t.node? other := by
  by_cases hr : other = []
  · rw [hr, node?_root, node?_root]
  · rw [node?_of_ne_root _ hr, node?_of_ne_root _ hr, setChanged]
    split
    · rfl
    · exact Entries.lookup_put_of_ne _ _ h

/-- A node that was put at a place is at that place. -/
theorem node?_put_self (t : FileTree) {place : Place}
    (h : place ≠ []) (n : FileNode) :
    (t.put place n).node? place = some n := by
  rw [node?_of_ne_root _ h]
  exact Entries.lookup_put_self _ _ _

/-- A file that was put at a place is at that place. -/
theorem node?_putFile_self (t : FileTree) {place : Place}
    (h : place ≠ []) (content : Bytes) :
    (t.putFile place content).node? place
      = some (.file content t.clock) :=
  t.node?_put_self h _

end FileTree

end Highlight
