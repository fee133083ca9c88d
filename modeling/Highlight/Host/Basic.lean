/-
What a session asks of the machine that it runs on: files by their paths,
the standard input, a place for output, one for notes to the user, and a
clock to wait by.

A session is written against this interface alone, so it runs in the same
way on a real machine and on one that is a value.
-/
import Highlight.Path
import Highlight.Text.Quoted
import Highlight.Text.Utf8

namespace Highlight

/-- Why a file cannot be read or written. -/
inductive FileCause where
  | missing
  /-- A part of the path that should be a directory is none. -/
  | notDirectory
  | isDirectory
  | nameTooLong
  /-- The path holds a zero byte, so no system can be asked for it. -/
  | zeroByte
  | other (number : Nat) (text : String)
deriving DecidableEq, Repr

namespace FileCause

/-- The number by which systems know the cause. -/
def number : FileCause → Nat
  | missing => 2
  | notDirectory => 20
  | isDirectory => 21
  | nameTooLong => 36
  | zeroByte => 22
  | other n _ => n

def text : FileCause → String
  | missing => "No such file or directory"
  | notDirectory => "Not a directory"
  | isDirectory => "Is a directory"
  | nameTooLong => "File name too long"
  | zeroByte => "Invalid argument"
  | other _ t => t

end FileCause

/-- A file that cannot be read or written. -/
structure FileError where
  cause : FileCause
  path : Path
deriving DecidableEq, Repr

namespace FileError

def message (e : FileError) : String :=
  s!"[Errno {e.cause.number}] {e.cause.text}: "
    ++ .ofList (Text.quoted e.path.text.toList)

/-- There is no file under the path, and the path is not at fault
otherwise. -/
def isAbsence (e : FileError) : Bool :=
  match e.cause with
  | .missing | .notDirectory | .isDirectory | .zeroByte => true
  | .nameTooLong | .other .. => false

end FileError

/-- Why a text is not where it should have been written. -/
inductive WriteFault where
  /-- The file cannot be opened, and is as it was. -/
  | file (e : FileError)
  /-- There are no bytes for the text. A file has been opened by then, and
  that has emptied it. -/
  | unencodable
deriving DecidableEq, Repr

/-- A machine that sessions can run on, with its effects. -/
class Host (m : Type → Type) where
  /-- The content of a file. -/
  read : Path → m (Except FileError Bytes)
  /-- When a file was last changed. -/
  changed : Path → m (Except FileError Int)
  /-- Opens a file and makes the text its content. -/
  write : Path → Text → m (Except WriteFault Unit)
  /-- All of the standard input, as the machine decodes it; none if it is no
  text. -/
  input : m (Option Text)
  /-- Adds a text to the output; nothing of one that has no bytes there. -/
  out : Text → m (Except WriteFault Unit)
  /-- Adds to the output what is made of names and fixed texts only. -/
  print : String → m Unit
  /-- Adds to what the user is told. -/
  note : String → m Unit
  /-- Waits for so many milliseconds. -/
  sleep : Nat → m Unit

end Highlight
