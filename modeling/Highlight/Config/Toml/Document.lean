/-
Configuration documents as a whole: the table that all statements of a
document make together.

A table is begun by its header at most once, and a table that came to be
by dotted keys in one section has no header in a later one. What was
written out as an inline table or an array is complete: no header and no
key leads into it. Each further table of an array starts afresh. A flaw
that keeps a statement from being read comes after the faults of the
statements before it.

A carriage return before a line feed is no part of the document.
-/
import Highlight.Config.Toml.Statement

namespace Highlight.Config.Toml

/-- The table made so far, and what may not be touched again. -/
structure Draft where
  table : Table := []
  /-- The header that the assignments belong to. -/
  header : Key := []
  /-- Tables that cannot be begun again. -/
  begun : List Key := []
  /-- Tables made by dotted keys in this section. -/
  implied : List Key := []
  /-- Values that are complete. -/
  complete : List Key := []

namespace Draft

/-- The key leads to a complete value or into one. -/
def isComplete (d : Draft) (key : Key) : Bool :=
  d.complete.any (·.isPrefixOf key)

/-- Ends the current section. -/
def endSection (d : Draft) : Draft :=
  { d with begun := d.begun ++ d.implied, implied := [] }

/-- Begins a table. -/
def beginTable? (d : Draft) (key : Key) : Option Draft := do
  let d := d.endSection
  guard (!d.begun.contains key && !d.isComplete key)
  let table ← update? true some key d.table
  some { d with table, header := key, begun := d.begun ++ [key] }

/-- Adds an empty table to an array of tables, a new one if need be. -/
def addElement? (name : String) (t : Table) : Option Table :=
  match t.lookup name with
  | none => some (t ++ [(name, .list [.table []])])
  | some (.list vs) =>
    some (Entries.put name (.list (vs ++ [.table []])) t)
  | some _ => none

/-- Begins the next table of an array. -/
def beginElement? (d : Draft) (key : Key) : Option Draft := do
  let d := d.endSection
  guard !d.isComplete key
  let apart (k : Key) : Bool := !key.isPrefixOf k
  let table ←
    update? true (addElement? (key.getLast?.getD "")) key.dropLast d.table
  some { d with
    table
    header := key
    begun := d.begun.filter apart ++ [key]
    complete := d.complete.filter apart }

/-- The tables that a dotted key passes through. -/
def passed (header key : Key) : List Key :=
  (List.range (key.length - 1)).map fun i => header ++ key.take (i + 1)

/-- Assigns a value in the current section. -/
def assign? (d : Draft) (key : Key) (v : Value) : Option Draft := do
  let way := passed d.header key
  guard (!way.any d.begun.contains)
  let parent := d.header ++ key.dropLast
  guard !d.isComplete parent
  let table ←
    update? true (addNew? (key.getLast?.getD "") v) parent d.table
  let complete :=
    if isClosed v then d.complete ++ [d.header ++ key] else d.complete
  some { d with table, implied := d.implied ++ way, complete }

/-- Follows one statement. -/
def follow? (d : Draft) : Statement → Option Draft
  | .table key => d.beginTable? key
  | .element key => d.beginElement? key
  | .assign key v => d.assign? key v

end Draft

/-- Drops the carriage return of every line end. -/
def dropReturns : Text → Text
  | '\r' :: '\n' :: r => '\n' :: dropReturns r
  | c :: r => c :: dropReturns r
  | [] => []

/-- The table that a document stands for. -/
def document (t : Text) : Reading Table := do
  let t := dropReturns t
  let (statements, flaw) := statements (t.length + 1) t
  let draft ← wellFormed (statements.foldlM Draft.follow? {})
  match flaw with
  | none => .ok draft.table
  | some flaw => .error flaw

end Highlight.Config.Toml
