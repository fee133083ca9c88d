/-
Registries: languages by name, compiled, with aliases for their names.

A registry is built from descriptions of languages and can be extended to
a larger one. An extension replaces a language of the same name and
leaves it in its place; aliases are replaced in the same way. A name of a
language stands for itself, whatever aliases there are; an alias stands
for its target as long as that is the name of a language.

# The log

Building leaves a line for every language that could be compiled, in
order, and one for the finished registry. The lines are kept also when a
language fails, up to the one before it.
-/
import Highlight.Language.Builtin
import Highlight.Entries

namespace Highlight

structure Registry where
  specs : Entries String Spec
  aliases : Entries String String
  /-- The compiled rules of every language, in the same order. -/
  rules : Entries String (List Rule)
deriving Repr

namespace Registry

-- ============================================================ building

/-- The line for a compiled language. -/
def compiledLine (name : String) (rules : List Rule) : String :=
  "spanlex.language: compiled language "
    ++ .ofList (Text.quoted name.toList)
    ++ s!" into {rules.length} rules"

/-- The line for a finished registry. -/
def builtLine (names : List String) : String :=
  "spanlex.languages: built language registry: "
    ++ ", ".intercalate names

/-- Compiles languages one after another, with the lines left behind. -/
def compileAll :
    Entries String Spec →
      List String × Except Spec.Failure (Entries String (List Rule))
  | [] => ([], .ok [])
  | (name, spec) :: more =>
    match spec.compile name with
    | .error e => ([], .error e)
    | .ok rules =>
      let (log, rest) := compileAll more
      (compiledLine name rules :: log, rest.map ((name, rules) :: ·))

/-- Builds a registry, with the lines left behind. -/
def build (specs : Entries String Spec) (aliases : Entries String String) :
    List String × Except Spec.Failure Registry :=
  match compileAll specs with
  | (log, .error e) => (log, .error e)
  | (log, .ok rules) =>
    (log ++ [builtLine (Entries.keys rules)],
      .ok { specs, aliases, rules })

/-- A larger registry; what is new replaces what has the same name. -/
def extend (r : Registry) (specs : Entries String Spec)
    (aliases : Entries String String) :
    List String × Except Spec.Failure Registry :=
  build (r.specs.putAll specs) (r.aliases.putAll aliases)

-- ============================================================= look-up

/-- The names of the languages, in order. -/
def names (r : Registry) : List String := Entries.keys r.rules

def contains (r : Registry) (name : String) : Bool :=
  r.names.contains name

/-- The rules of a language, by its own name. -/
def get? (r : Registry) (name : String) : Option (List Rule) :=
  r.rules.lookup name

/-- The name of the language that a name or an alias stands for. -/
def canonicalName? (r : Registry) (name : String) : Option String :=
  if r.contains name then some name
  else (r.aliases.lookup name).filter r.contains

/-- The rules of the language that a name or an alias stands for. -/
def resolve? (r : Registry) (name : String) : Option (List Rule) :=
  (r.canonicalName? name).bind r.get?

-- ============================================================= listing

/-- Names in the order of their characters. -/
def sorted (names : List String) : List String :=
  names.mergeSort fun a b => decide (a ≤ b)

/-- The aliases of a language, in order. -/
def aliasesOf (r : Registry) (name : String) : List String :=
  sorted ((r.aliases.filter (·.2 == name)).map Prod.fst)

/-- The line of a language in the listing. -/
def listingLine (r : Registry) (name : String) : String :=
  match r.aliasesOf name with
  | [] => name ++ "\n"
  | as => name ++ " (" ++ ", ".intercalate as ++ ")\n"

/-- All languages, a line for each. -/
def listing (r : Registry) : String :=
  String.join ((sorted r.names).map r.listingLine)

-- ============================================================= default

/-- The known languages can all be compiled. -/
theorem build_builtins :
    (build Language.builtins Language.aliases).2.toOption.isSome := by
  decide +kernel

/-- The registry of the known languages. -/
def default : Registry :=
  (build Language.builtins Language.aliases).2.toOption.get build_builtins

end Registry

end Highlight
