/-
Watching a file: it is looked at again and again, with a pause behind
every look, and highlighted whenever it has changed.

A file has changed if the time of its last change differs from the one
at the last look that found it; before the first look that time is zero.
What goes wrong while the file is highlighted is noted, and the watch
goes on. It ends only from outside, or in a crash.
-/
import Highlight.Host.Machine
import Highlight.Session.Basic

namespace Highlight.Session

/-- The pause behind a look, in milliseconds. -/
def pause : Nat := 500

section

variable {m : Type → Type} [Monad m] [Host m]

/-- Says that a watch begins. -/
def announce (input : Path) : m Unit :=
  Host.note s!"Watching {input.text} for changes...\n"

/-- Notes a failure and goes on, unless it is a crash. -/
def noteFailure (f : Failure) : m (Except Crash Unit) :=
  match f.ending with
  | .error c => return .error c
  | .ok (note, _) => .ok <$> Host.note note

/-- Highlights a file that has changed. -/
def refresh (s : Settings) (input : Path) : m (Except Crash Unit) := do
  match outputOf s (← readInput s) with
  | .error f => noteFailure f
  | .ok (notes, html) =>
    Host.note notes
    match ← deliver s html with
    | .ok () => .ok <$> Host.note s!"Highlighted {input.text}\n"
    | .error (.file e) => noteFailure (.file e)
    | .error .unencodable => return .error .unencodable

/-- Looks at the file and waits: takes the time of the change that was seen
last, and gives the one that is now. -/
def look (s : Settings) (input : Path) (last : Int) :
    m (Except Crash Int) := do
  match ← Host.changed input with
  | .error e =>
    if e.cause = .zeroByte then return .error (.file e)
    else
      Host.sleep pause
      return .ok last
  | .ok time =>
    match ← if time = last then pure (.ok ()) else refresh s input with
    | .error c => return .error c
    | .ok () =>
      Host.sleep pause
      return .ok time

end

-- =========================================================== schedules

/-- The machine at every pause of a watch, and how the watch ends, if the
machine changes in given ways during the pauses and the watch is ended
in the last of them. -/
def watchThrough (s : Settings) (input : Path) (last : Int)
    (changes : List (Machine → Machine)) (m : Machine) :
    List Machine × Ending × Machine :=
  match (look s input last : StateM Machine _).run m with
  | (.error c, m) => ([], .crashed c, m)
  | (.ok last, m) =>
    match changes with
    | [] => ([m], .finished 0, m)
    | change :: more =>
      let (pauses, rest) := watchThrough s input last more (change m)
      (m :: pauses, rest)

/-- A session on a machine that changes in given ways while a file is
watched: the machine at every pause, how the session ends, and the
machine then. -/
def run (words : List String) (changes : List (Machine → Machine))
    (m : Machine) : List Machine × Ending × Machine :=
  match (start words : StateM Machine _).run m with
  | (.nothing e, m) => ([], e, m)
  | (.once s, m) =>
    let (e, m) := (once s : StateM Machine _).run m
    ([], e, m)
  | (.watch s input, m) =>
    let ((), m) := (announce input : StateM Machine _).run m
    watchThrough s input 0 changes m

end Highlight.Session
