/-
The settings of a session: the arguments and the configuration together.

An argument wins over the configuration. The language of a file whose
name tells it wins over the configuration too, but not over the argument.
The entries of the configuration are checked in a fixed order, also those
that an argument overrides, except the language, which is looked at only
if nothing else names one; the languages that a configuration describes
come last.
-/
import Highlight.Arguments.Reading
import Highlight.Config.Languages
import Highlight.Path

namespace Highlight

structure Settings where
  input : Option Path
  output : Option Path
  /-- The name or the alias of a language, or no known name at all. -/
  language : Arguments.Given
  registry : Registry
  lineNumbers : Bool
  standalone : Bool
  escape : Bool
  listLanguages : Bool
  watch : Bool
  debug : Bool
deriving Repr

namespace Settings

/-- The language when nothing names one. -/
def defaultLanguage : String := "javascript"

/-- The name of the configuration beside the input. -/
def configName : String := "spanlex.toml"

/-- A path that was given; an empty one counts as none. -/
def pathOf? (word : Option String) : Option Path :=
  (word.filter (· ≠ "")).map fun w => .ofText w.toList

/-- The input; a dash stands for the standard input. -/
def inputOf? (a : Arguments) : Option Path :=
  pathOf? (a.input.filter (· ≠ "-"))

/-- Where the configuration is: as the arguments say, or beside the
input. -/
def configPath (a : Arguments) : Path :=
  (pathOf? a.config).getD <|
    match inputOf? a with
    | some p => p.parent.child configName
    | none => Path.child (.ofText []) configName

/-- The language that the configuration names. -/
def configuredLanguage (t : Config.Table) : Except Config.BadEntry String :=
  match t.lookup "language" with
  | none | some .null | some (.string "") => .ok defaultLanguage
  | some (.string s) => .ok s
  | some _ => .error .language

/-- The language, by the argument, the name of the input or the
configuration. -/
def languageOf (a : Arguments) (t : Config.Table) :
    Except Config.BadEntry Arguments.Given :=
  match a.language, (inputOf? a).bind Language.ofPath? with
  | some l, _ => .ok l
  | none, some l => .ok (.word l)
  | none, none => .word <$> configuredLanguage t

/-- A truth value of the configuration. -/
def switchOf (t : Config.Table) (name : String) (absent : Bool) :
    Except Config.BadEntry Bool :=
  match t.lookup name with
  | none => .ok absent
  | some (.bool b) => .ok b
  | some _ => .error (.switch name)

/-- The settings but for the registry, by the arguments and the section
of the configuration that holds defaults. -/
def withDefaults (a : Arguments) (t : Config.Table) :
    Except Config.BadEntry (Registry → Settings) := do
  let language ← languageOf a t
  let lineNumbers ← switchOf t "line_numbers" false
  let standalone ← switchOf t "standalone" false
  let escape ← switchOf t "escape" true
  .ok fun registry => {
    input := inputOf? a
    output := pathOf? a.output
    language
    registry
    lineNumbers := a.lineNumbers || lineNumbers
    standalone := a.standalone || standalone
    escape := !a.noEscape && escape
    listLanguages := a.listLanguages
    watch := a.watch
    debug := a.debug }

/-- The settings, with the lines of the log. -/
def resolve (a : Arguments) (config : Config.Table) :
    List String × Except Config.Fault Settings :=
  let defaults := Config.section? "highlight" config
  match defaults.bind fun t => (withDefaults a t).mapError .entry with
  | .error f => ([], .error f)
  | .ok settings =>
    let (log, registry) := Config.registry? config
    (log, registry.map fun r => settings (r.getD .default))

end Settings

end Highlight
