/-
What a configuration says about languages: tables of further languages
and names for them. A configuration without either leaves the registry of
the known languages as it is.
-/
import Highlight.Language.Table
import Highlight.Registry

namespace Highlight.Config

/-- An entry of a configuration that has the wrong kind of value. -/
inductive BadEntry where
  /-- A section is no table. -/
  | section (name : String)
  /-- The default language is no string. -/
  | language
  /-- A switch is no truth value. -/
  | switch (name : String)
deriving DecidableEq, Repr

def BadEntry.message : BadEntry → String
  | .section name => s!"config [{name}] must be a table"
  | .language => "config [highlight] language must be a string"
  | .switch name => s!"config [highlight] {name} must be true or false"

/-- What is wrong with a configuration. -/
inductive Fault where
  | entry (e : BadEntry)
  | language (f : Spec.Failure)
  /-- A name is a whole number of too many digits, or holds one. -/
  | longNumber
deriving DecidableEq, Repr

/-- A section of a configuration; an absent one is empty. -/
def section? (name : String) (t : Table) : Except Fault Table :=
  match t.lookup name with
  | none => .ok []
  | some (.table s) => .ok s
  | some _ => .error (.entry (.section name))

/-- The language that an entry of the section describes. -/
def languageOf (name : String) (v : Value) : Except Spec.Failure Spec :=
  match v with
  | .table t => Spec.ofTable name t
  | _ => .error (.language { cause := .notTable, language := name })

/-- The languages of a section, one after another. -/
def languagesOf : Table → Except Spec.Failure (Entries String Spec)
  | [] => .ok []
  | (name, v) :: more => do
    let spec ← languageOf name v
    let specs ← languagesOf more
    .ok ((name, spec) :: specs)

/-- The names that a section gives to languages. -/
def aliasesOf (t : Table) : Except Fault (Entries String String) :=
  if t.all fun (_, v) => v.isShowable then
    .ok (t.map fun (k, v) => (k, .ofList v.shown))
  else
    .error .longNumber

/-- The registry that a configuration makes, or none if it leaves the
known one as it is, with the lines of the log. -/
def registry? (t : Table) :
    List String × Except Fault (Option Registry) :=
  let parts : Except Fault (Entries String Spec × Entries String String) :=
    do
    let languages ← section? "languages" t
    let specs ← (languagesOf languages).mapError .language
    let aliases ← section? "aliases" t
    .ok (specs, ← aliasesOf aliases)
  match parts with
  | .error f => ([], .error f)
  | .ok ([], []) => ([], .ok none)
  | .ok (specs, aliases) =>
    match Registry.default.extend specs aliases with
    | (log, .ok r) => (log, .ok (some r))
    | (log, .error f) => (log, .error (.language f))

end Highlight.Config
