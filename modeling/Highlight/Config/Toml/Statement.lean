/-
The statements of a configuration document: assignments of values to
keys, and headers that say which table the assignments after them belong
to. A key is a row of names with dots between them.

Values nest, so reading one takes fuel, two units for each character: a
level of nesting takes at most two and begins with a character of its
own. An inline table is put together while it is read; what a table of
the document may hold is decided where all statements are known.
-/
import Highlight.Config.Toml.Quoted
import Highlight.Config.Toml.Scalar
import Highlight.Entries

namespace Highlight.Config.Toml

/-- A dotted key: one name or more. -/
abbrev Key := List String

-- =============================================================== keys

/-- A character of a name without quotes. -/
def isBare (c : Char) : Bool :=
  c.isAlphanum || c == '-' || c == '_'

/-- One name of a key, and the text behind it. -/
def name? (t : Text) : Option (String × Text) :=
  match t.takeWhile isBare with
  | [] => (line? t).map fun (s, r) => (.ofList s, r)
  | bare => some (.ofList bare, t.drop bare.length)

/-- The names behind the first one. There are no more of them than the
text has characters. -/
def moreNames? : Nat → Text → Option (Key × Text)
  | 0, _ => none
  | fuel + 1, t =>
    match skipBlanks t with
    | '.' :: r => do
      let (n, r) ← name? (skipBlanks r)
      let (ns, r) ← moreNames? fuel r
      some (n :: ns, r)
    | r => some ([], r)

/-- A key, and the text behind it and the blanks that follow. -/
def key? (t : Text) : Option (Key × Text) := do
  let (n, r) ← name? t
  let (ns, r) ← moreNames? (t.length + 1) r
  some (n :: ns, r)

-- =========================================================== comments

/-- Skips a comment, if there is one, up to the end of its line. -/
def skipComment? (t : Text) : Option Text :=
  match t with
  | '#' :: r =>
    let comment := Text.firstLine r
    if comment.any isControl then none else some (r.drop comment.length)
  | _ => some t

/-- Skips blanks, line ends and comments inside an array. -/
def skipLines? : Nat → Text → Option Text
  | 0, _ => none
  | fuel + 1, t =>
    match t.dropWhile isSpace with
    | '#' :: r => do
      let r ← skipComment? ('#' :: r)
      skipLines? fuel r
    | r => some r

-- ============================================================= tables

/-- The table behind a row of names, with a change made to it. Tables on
the way are made where they are missing. Where the way leads through an
array of tables it goes on in the last one, if arrays may be entered at
all; any other value is in the way. -/
def update? (arrays : Bool) (change : Table → Option Table) :
    Key → Table → Option Table
  | [], t => change t
  | k :: ks, t => do
    match t.lookup k with
    | none =>
      let inner ← update? arrays change ks []
      some (Entries.put k (.table inner) t)
    | some (.table inner) =>
      let inner ← update? arrays change ks inner
      some (Entries.put k (.table inner) t)
    | some (.list vs) =>
      guard arrays
      match vs.getLast? with
      | some (.table inner) =>
        let inner ← update? arrays change ks inner
        some (Entries.put k (.list (vs.dropLast ++ [.table inner])) t)
      | _ => none
    | some _ => none

/-- Adds an entry under a name that is not yet taken. -/
def addNew? (name : String) (v : Value) (t : Table) : Option Table :=
  if (t.lookup name).isSome then none else some (t ++ [(name, v)])

/-- A value that no later key may lead into. -/
def isClosed : Value → Bool
  | .table _ | .list _ => true
  | _ => false

/-- Adds an entry to an inline table. No key may lead into a value that
was written out before. -/
def addInline? (key : Key) (v : Value) (closed : List Key) (t : Table) :
    Option (Table × List Key) := do
  guard !closed.any (·.isPrefixOf key)
  let t ← update? false (addNew? (key.getLast?.getD "") v) key.dropLast t
  some (t, if isClosed v then closed ++ [key] else closed)

-- ============================================================= values

/-- A string as a value. -/
def string (t : Text) : Reading (Value × Text) :=
  (wellFormed (string? t)).map fun (s, r) => (.string (.ofList s), r)

mutual

/-- A value, from its first character on, with so much room inside. -/
def value (room : Nat) : Nat → Text → Reading (Value × Text)
  | 0, _ => .error .malformed
  | fuel + 1, t =>
    match t with
    | [] => .error .malformed
    | '"' :: _ => string t
    | '\'' :: _ => string t
    | 't' :: 'r' :: 'u' :: 'e' :: r => .ok (.bool true, r)
    | 'f' :: 'a' :: 'l' :: 's' :: 'e' :: r => .ok (.bool false, r)
    | '[' :: r => do
      let room ← deeper room arrayDepth
      let (vs, r) ← elements room fuel r
      .ok (.list vs, r)
    | c :: r =>
      if c = '\x7b' then do
        let room ← deeper room tableDepth
        match skipBlanks r with
        | d :: r' =>
          if d = '\x7d' then .ok (.table [], r')
          else
            let (t, r) ← pairs room fuel (d :: r') [] []
            .ok (.table t, r)
        | [] => .error .malformed
      else
        scalar t

/-- The elements of an array up to its closing bracket. -/
def elements (room : Nat) : Nat → Text → Reading (List Value × Text)
  | 0, _ => .error .malformed
  | fuel + 1, t => do
    match ← wellFormed (skipLines? (t.length + 1) t) with
    | ']' :: r => .ok ([], r)
    | r =>
      let (v, r) ← value room fuel r
      match ← wellFormed (skipLines? (r.length + 1) r) with
      | ']' :: r => .ok ([v], r)
      | ',' :: r =>
        let (vs, r) ← elements room fuel r
        .ok (v :: vs, r)
      | _ => .error .malformed

/-- The entries of an inline table up to its closing brace, added to the
ones before them. -/
def pairs (room : Nat) :
    Nat → Text → Table → List Key → Reading (Table × Text)
  | 0, _, _, _ => .error .malformed
  | fuel + 1, t, table, closed => do
    let (key, r) ← wellFormed (key? t)
    match r with
    | '=' :: r =>
      let (v, r) ← value room fuel (skipBlanks r)
      let (table, closed) ← wellFormed (addInline? key v closed table)
      match skipBlanks r with
      | ',' :: r => pairs room fuel (skipBlanks r) table closed
      | c :: r =>
        if c = '\x7d' then .ok (table, r) else .error .malformed
      | [] => .error .malformed
    | _ => .error .malformed

end

-- ========================================================== statements

inductive Statement where
  /-- The start of a table. -/
  | table (key : Key)
  /-- The start of one more table of an array. -/
  | element (key : Key)
  | assign (key : Key) (v : Value)
deriving Repr

/-- The header of a table or of an array's next table, from behind its
first bracket on. -/
def header? (t : Text) : Option (Statement × Text) := do
  match t with
  | '[' :: r =>
    let (key, r) ← key? (skipBlanks r)
    match r with
    | ']' :: ']' :: r => some (.element key, r)
    | _ => none
  | r =>
    let (key, r) ← key? (skipBlanks r)
    match r with
    | ']' :: r => some (.table key, r)
    | _ => none

/-- An assignment. -/
def assign (t : Text) : Reading (Statement × Text) := do
  let (key, r) ← wellFormed (key? t)
  match r with
  | '=' :: r =>
    let r := skipBlanks r
    let (v, r) ← value depthLimit (2 * r.length + 2) r
    .ok (.assign key v, r)
  | _ => .error .malformed

/-- The statement at the start of a line, unless the line has none. -/
def statement? (t : Text) : Reading (Option Statement × Text) :=
  match t with
  | [] => .ok (none, [])
  | '[' :: r => (wellFormed (header? r)).map fun (s, r) => (some s, r)
  | c :: _ =>
    if c = '\n' ∨ c = '#' then .ok (none, t)
    else (assign t).map fun (s, r) => (some s, r)

/-- All statements, line by line, as far as they can be read, and what
keeps the rest from being read. There are no more lines than the text has
characters, and one more. -/
def statements : Nat → Text → List Statement × Option Flaw
  | 0, _ => ([], some .malformed)
  | fuel + 1, t =>
    match statement? (skipBlanks t) with
    | .error flaw => ([], some flaw)
    | .ok (s, r) =>
      match skipComment? (skipBlanks r) with
      | some [] => (s.toList, none)
      | some ('\n' :: r) =>
        let (more, flaw) := statements fuel r
        (s.toList ++ more, flaw)
      | _ => (s.toList, some .malformed)

end Highlight.Config.Toml
