/-
Languages described by tables of a configuration.

Every entry of the table is checked, the entries in a fixed order and the
rules one after another, and the first fault is reported. An entry that
is absent has a default; one that is null counts as absent for words, the
comment delimiter and labels, and is a fault for the others.
-/
import Highlight.Config.Value
import Highlight.Language.Spec

namespace Highlight.Spec

open Config

/-- The keys of a language table. -/
def keys : List String :=
  ["keywords", "constants", "builtins", "double_string",
   "single_string", "comment_delimiter", "rules"]

/-- The keys of a rule table. -/
def ruleKeys : List String :=
  ["pattern", "start", "end", "class", "ignore_case"]

/-- The least key that is not among the known ones. -/
def unknownKey? (known : List String) (t : Table) : Option String :=
  ((t.map Prod.fst).filter (!known.contains ·)).foldl
    (fun least k =>
      match least with
      | some l => if k < l then some k else some l
      | none => some k) none

-- ============================================================ entries

/-- A text that is not empty. -/
def word? : Value → Option Text
  | .string s => if s = "" then none else some s.toList
  | _ => none

/-- A list of words. -/
def words? (t : Table) (key : String) :
    Except Cause (Option (List Text)) :=
  match t.lookup key with
  | none | some .null => .ok none
  | some (.list vs) =>
    match vs.mapM word? with
    | some ws => .ok (some ws)
    | none => .error (.badWords key)
  | some _ => .error (.badWords key)

/-- A truth value, false by default. -/
def flag? (t : Table) (key : String) (cause : Cause) :
    Except Cause Bool :=
  match t.lookup key with
  | none => .ok false
  | some (.bool b) => .ok b
  | some _ => .error cause

/-- A word that may be missing. -/
def optionalWord? (t : Table) (key : String) (cause : Cause) :
    Except Cause (Option Text) :=
  match t.lookup key with
  | none | some .null => .ok none
  | some v =>
    match word? v with
    | some w => .ok (some w)
    | none => .error cause

-- ============================================================== rules

/-- Blames a rule of a language. -/
def blameRule {α : Type} (language : String) (rule : Nat) :
    Except Cause α → Except Failure α
  | .ok a => .ok a
  | .error cause => .error (.language { cause, language, rule })

/-- Compiles the pattern of a rule. -/
def pattern? (language : String) (rule : Nat) (fs : Regex.Flags)
    (v : Value) : Except Failure Pattern :=
  match word? v with
  | none =>
    .error (.language { cause := .emptyPattern, language, rule })
  | some text =>
    match Pattern.compile text fs with
    | .ok p => .ok p
    | .error (.fault f place) =>
      .error (.language
        { cause := .badPattern f, language, rule, pattern := some text,
          column := place })
    | .error e => .error (.pattern e)

/-- The rule that a table describes. -/
def ruleOfTable (language : String) (rule : Nat) (t : Table) :
    Except Failure Rule := do
  let blame {α : Type} : Except Cause α → Except Failure α :=
    blameRule language rule
  if let some key := unknownKey? ruleKeys t then
    blame (.error (.unknownRuleKey key))
  let label ← blame (optionalWord? t "class" .badLabel)
  let label := label.map String.ofList
  let ignoreCase ← blame (flag? t "ignore_case" .badIgnoreCase)
  let fs : Regex.Flags := { ignoreCase }
  match t.lookup "pattern", t.lookup "start", t.lookup "end" with
  | some p, none, none =>
    let p ← pattern? language rule fs p
    .ok (.simple p label)
  | some _, _, _ => blame (.error .patternAndEnds)
  | none, some s, some e =>
    let s ← pattern? language rule fs s
    let e ← pattern? language rule fs e
    .ok (.delimited s e label)
  | none, _, _ => blame (.error .noPattern)

/-- The rule that a value describes. -/
def ruleOf (language : String) (rule : Nat) : Value → Except Failure Rule
  | .table t => ruleOfTable language rule t
  | _ => blameRule language rule (.error .ruleNotTable)

/-- The rules of a list, numbered from the given number on. -/
def rulesOf (language : String) (first : Nat) :
    List Value → Except Failure (List Rule)
  | [] => .ok []
  | v :: vs => do
    let r ← ruleOf language first v
    let rs ← rulesOf language (first + 1) vs
    .ok (r :: rs)

-- ============================================================== tables

/-- Blames a language. -/
def blame {α : Type} (language : String) :
    Except Cause α → Except Failure α
  | .ok a => .ok a
  | .error cause => .error (.language { cause, language })

/-- The list of rules of a language table. -/
def ruleList? (t : Table) : Except Cause (List Value) :=
  match t.lookup "rules" with
  | none => .ok []
  | some (.list vs) => .ok vs
  | some _ => .error .badRules

/-- The language that a table describes. -/
def ofTable (language : String) (t : Table) : Except Failure Spec := do
  if let some key := unknownKey? keys t then
    blame language (.error (.unknownKey key))
  let keywords ← blame language (words? t "keywords")
  let constants ← blame language (words? t "constants")
  let builtins ← blame language (words? t "builtins")
  let doubleString ← blame language
    (flag? t "double_string" (.badFlag "double_string"))
  let singleString ← blame language
    (flag? t "single_string" (.badFlag "single_string"))
  let commentDelimiter ← blame language
    (optionalWord? t "comment_delimiter" .badDelimiter)
  let values ← blame language (ruleList? t)
  let rules ← rulesOf language 0 values
  .ok { keywords, constants, builtins, doubleString, singleString,
        commentDelimiter, rules }

end Highlight.Spec
