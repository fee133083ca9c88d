/-
Sessions: what a command line makes the machine do.

A session reads its arguments and the configuration, and then lists the
languages, watches a file, or highlights its input once. It ends with a
code: 0 if all went well, 1 if a language or a source is at fault, and 2
if the arguments, an entry of the configuration or the input is. What a
session does not account for makes it crash: a configuration that cannot
be read, bytes that are no text, patterns beyond every limit or with
crossed groups, no language where one was meant to be, and an output that
cannot be written, for its path or for a text that has no bytes.

The output is written last, so a session that highlights once and fails
puts nothing out; but its output file is empty if it was opened for a text
without bytes.
-/
import Highlight.Arguments.Help
import Highlight.Config.Toml.Document
import Highlight.Host.Basic
import Highlight.Session.Output

namespace Highlight

/-- What a session does not account for. -/
inductive Crash where
  /-- A configuration that cannot be read or used. -/
  | configuration (f : Config.Toml.Flaw)
  /-- Bytes that are no text. -/
  | encoding
  | file (e : FileError)
  /-- A text that has no bytes where it is put out. -/
  | unencodable
  | pattern (r : Regex.Rejection)
  | crossing (c : Regex.Crossing)
  | noLanguage
deriving DecidableEq, Repr

/-- How a session ends. -/
inductive Ending where
  /-- The arguments asked for nothing but help, or were wrong. -/
  | declined (code : Nat)
  | finished (code : Nat)
  | crashed (c : Crash)
deriving DecidableEq, Repr

namespace Session

-- ====================================================== configuration

/-- The configuration in a file; without a file it is empty. -/
def configOf (content : Except FileError Bytes) :
    Except Crash Config.Table :=
  match content with
  | .error e => if e.isAbsence then .ok [] else .error (.file e)
  | .ok bytes =>
    match Utf8.decode? bytes with
    | none => .error .encoding
    | some t =>
      (Config.Toml.document t).mapError .configuration

/-- What a faulty configuration leads to: a note and a code, or a
crash. -/
def faultEnding : Config.Fault → Except Crash (String × Nat)
  | .entry e => .ok (s!"error: {e.message}\n", 2)
  | .language (.language f) => .ok (f.text ++ "\n", 1)
  | .language (.pattern r) => .error (.pattern r)
  | .longNumber => .error (.configuration .longNumber)

-- ============================================================== source

/-- The source text in the bytes of a file, with one kind of line end; none
if they are no text. -/
def sourceOf? (bytes : Bytes) : Option Text :=
  (Utf8.decode? bytes).map Text.unifyNewlines

/-- Why there is nothing to put out. -/
inductive Failure where
  | file (e : FileError)
  | encoding
  /-- A scan stalled, with its report. -/
  | stall (report : String)
  | crossing (c : Regex.Crossing)
  | noLanguage
deriving DecidableEq, Repr

/-- The failure that an obstacle makes. -/
def Failure.ofObstacle (s : Settings) (source : Text) :
    Settings.Obstacle → Failure
  | .halt (.stall found) => .stall (s.stallReport source found)
  | .halt (.crossing c) => .crossing c
  | .noLanguage => .noLanguage

/-- What is put out for the source text that was read, with notes. -/
def outputOf (s : Settings) (content : Except FileError (Option Text)) :
    Except Failure (String × Text) :=
  match content with
  | .error e => .error (.file e)
  | .ok none => .error .encoding
  | .ok (some source) =>
    (s.highlight source).mapError (.ofObstacle s source)

/-- A text that cannot be written ends a session that highlights once. -/
def crashOf : WriteFault → Crash
  | .file e => .file e
  | .unencodable => .unencodable

/-- What a failure leads to: a note and a code, or a crash. -/
def Failure.ending : Failure → Except Crash (String × Nat)
  | file e =>
    if e.cause = .zeroByte then .error (.file e)
    else .ok (s!"error: {e.message}\n", 2)
  | encoding => .error .encoding
  | stall report => .ok (report ++ "\n", 1)
  | crossing c => .error (.crossing c)
  | noLanguage => .error .noLanguage

-- ============================================================= running

section

variable {m : Type → Type} [Monad m] [Host m]

/-- The source text in the input; none if the input is no text. Only the
line ends of a file are made one kind: the standard input is taken as the
machine decodes it. -/
def readInput (s : Settings) : m (Except FileError (Option Text)) :=
  match s.input with
  | some p => do return (← Host.read p).map sourceOf?
  | none => .ok <$> Host.input

/-- Puts a text where the settings say. -/
def deliver (s : Settings) (t : Text) : m (Except WriteFault Unit) :=
  match s.output with
  | some p => Host.write p t
  | none => Host.out t

/-- Ends with a note and a code, or with a crash. -/
def endWith (e : Except Crash (String × Nat)) : m Ending :=
  match e with
  | .error c => return .crashed c
  | .ok (note, code) => do
    Host.note note
    return .finished code

/-- Highlights the input once. -/
def once (s : Settings) : m Ending := do
  match outputOf s (← readInput s) with
  | .error f => endWith f.ending
  | .ok (notes, html) =>
    Host.note notes
    match ← deliver s html with
    | .ok () => return .finished 0
    | .error f => return .crashed (crashOf f)

/-- What is left to do once the settings are known. -/
inductive Next where
  | nothing (e : Ending)
  | once (s : Settings)
  | watch (s : Settings) (input : Path)

/-- What settings ask for. -/
def next (s : Settings) : m Next := do
  if s.listLanguages then
    Host.print s.registry.listing
    return .nothing (.finished 0)
  else if s.watch then
    match s.input with
    | some p => return .watch s p
    | none =>
      Host.note "error: --watch needs an input file\n"
      return .nothing (.finished 2)
  else
    return .once s

/-- Notes the lines of the log, if asked to. -/
def noteLog (a : Arguments) (log : List String) : m Unit :=
  if a.debug then Host.note (String.join (log.map (· ++ "\n")))
  else return

/-- Finds out the settings for some arguments. -/
def settle (a : Arguments) : m (Except Ending Settings) := do
  match configOf (← Host.read (Settings.configPath a)) with
  | .error c => return .error (.crashed c)
  | .ok config =>
    let (log, settings) := Settings.resolve a config
    noteLog a log
    match settings with
    | .ok s => return .ok s
    | .error f => return .error (← endWith (faultEnding f))

/-- Begins a session: what is left to do is left to the caller, who knows
how long to watch. -/
def start (words : List String) : m Next := do
  match Arguments.read words with
  | .error .help =>
    Host.print Arguments.help
    return .nothing (.declined 0)
  | .error (.usage e) =>
    Host.note e.report
    return .nothing (.declined 2)
  | .ok a =>
    match ← settle a with
    | .error e => return .nothing e
    | .ok s => next s

end

end Session

end Highlight
