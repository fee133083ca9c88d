/-
The program: a session on the machine that it is started on. A file that
is watched is watched until the program is stopped from outside.
-/
import Highlight.Session.Watch

namespace Highlight.Program

-- =============================================================== files

/-- The cause of a failure of the system. -/
def causeOf : IO.Error → FileCause
  | .noFileOrDirectory .. => .missing
  | .inappropriateType _ 20 _ => .notDirectory
  | .inappropriateType _ 21 _ => .isDirectory
  | .permissionDenied _ number text => .other number.toNat text
  | e => .other 5 (toString e)

/-- The result of an action on a file, or why it failed. -/
def tryOn {α : Type} (p : Path) (action : IO α) :
    IO (Except FileError α) := do
  if p.parts.any (·.contains '\x00') then
    return .error { cause := .zeroByte, path := p }
  try
    return .ok (← action)
  catch e =>
    return .error { cause := causeOf e, path := p }

/-- When a file was last changed, in nanoseconds. -/
def lastChange (p : Path) : IO Int := do
  let time := (← ((← IO.currentDir) / p.text).metadata).modified
  return time.sec * 1000000000 + time.nsec.toNat

/-- The rest of a stream. -/
partial def readAll (s : IO.FS.Stream) (seen : ByteArray) :
    IO ByteArray := do
  let more ← s.read 65536
  if more.isEmpty then return seen else readAll s (seen ++ more)

/-- Puts a text out at once. -/
def putOut (s : String) : IO Unit := do
  (← IO.getStdout).putStr s
  (← IO.getStdout).flush

-- Names and inputs that are no text are not decoded here, so every text has
-- bytes.
instance : Host IO where
  read p := tryOn p do
    return (← IO.FS.readBinFile p.text).toList
  changed p := tryOn p (lastChange p)
  write p t := do
    let r ← tryOn p (IO.FS.writeFile p.text (.ofList t))
    return r.mapError .file
  input := do
    return Utf8.decode? (← readAll (← IO.getStdin) .empty).toList
  out t := .ok <$> putOut (.ofList t)
  print s := putOut s
  note s := do
    (← IO.getStderr).putStr s
  sleep n := IO.sleep (.ofNat n)

-- ============================================================= running

/-- What is said about a crash. -/
def crashNote : Crash → String
  | .configuration _ => "the configuration cannot be read"
  | .encoding => "the bytes are no text"
  | .file e => e.message
  | .unencodable => "the output has no bytes for the text"
  | .pattern _ => "a pattern of the configuration is out of bounds"
  | .crossing _ => "a pattern has crossed groups"
  | .noLanguage => "no language was given"

/-- The exit code for the end of a session. -/
def exitCode : Ending → IO UInt32
  | .declined code | .finished code => return .ofNat code
  | .crashed c => do
    Host.note (crashNote c ++ "\n")
    return 1

/-- Watches a file without an end, but for a crash. -/
partial def watch (s : Settings) (input : Path) (last : Int) :
    IO Ending := do
  match ← Session.look s input last with
  | .error c => return .crashed c
  | .ok last => watch s input last

end Highlight.Program

open Highlight in
def main (words : List String) : IO UInt32 := do
  match ← Session.start words with
  | .nothing e => Program.exitCode e
  | .once s => Program.exitCode (← Session.once s)
  | .watch s input =>
    Session.announce input
    Program.exitCode (← Program.watch s input 0)
