/-
A session that fails puts nothing out.

What is put out comes last: the arguments have been read, the
configuration is accounted for, the input has been read and highlighted,
and only then the output is touched. So a session that is not a watch, and
ends otherwise than well, leaves all files as they were and its output
empty (`run_failed`), whatever it failed at.

There is one exception. A file is emptied when it is opened, and only then
its text is encoded. If the text has no bytes, the session crashes and an
empty file is left (`Spoils`).
-/
import Highlight.Proofs.Checked
import Highlight.Proofs.Session.Step

namespace Highlight

open Machine (Untouched)

namespace Machine

/-- A machine with some files in the directory that it works in. -/
def holding (files : List (String × String)) : Machine where
  tree := {
    nodes := (["home"], .directory 1) :: files.map fun (name, text) =>
      (["home", name], .file (Utf8.encode text.toList) 1)
    clock := 2 }
  here := ["home"]

end Machine

namespace Settings

variable {a : Arguments} {t config : Config.Table} {s : Settings}

-- ========================================================= the settings

end Settings

namespace Session

/-- Some settings want a text in a file that has no bytes for it, and all
that has come of it is an empty file. -/
structure Spoils (s : Settings) (m m' : Machine) : Prop where
  text : ∃ notes html, outputOf s (m.source s) = .ok (notes, html)
    ∧ m.encode? html = none
  file : ∃ p, s.output = some p ∧ m.Emptied m' p

variable {a : Arguments} {s : Settings} {m m' : Machine} {e : Ending}
  {f : WriteFault} {notes note : String} {html : Text}

-- ============================================================ the steps

theorem Spoils.noted (h : Spoils s m m') (note : String) :
    Spoils s m (m'.noted note) :=
  ⟨h.text, h.file.imp fun _ h => ⟨h.1, h.2.tree, h.2.output⟩⟩

/-- A text that is not where it should be has touched nothing, or has no
bytes. -/
theorem untouched_or_spoils
    (ho : outputOf s (m.source s) = .ok (notes, html))
    (hf : m.delivered s html = .error f) :
    m.Untouched (m.spoilt s f)
      ∨ (f = .unencodable ∧ Spoils s m (m.spoilt s f)) := by
  cases f with
  | file e => exact Or.inl (.refl m)
  | unencodable =>
      cases hs : s.output with
      | none =>
          rw [Machine.spoilt_of_no_output hs]
          exact Or.inl (.refl m)
      | some p =>
          cases hw : m.written p html with
          | error cause =>
              rw [Machine.delivered_of_unopened hs hw] at hf
              cases hf
          | ok opened =>
              cases ht : m.encode? html with
              | some content =>
                  rw [Machine.delivered_of_written hs hw ht] at hf
                  cases hf
              | none =>
                  rw [Machine.spoilt_of_written hs hw ht]
                  exact Or.inr ⟨rfl, ⟨notes, html, ho, ht⟩, p, hs,
                    Machine.emptied_of_written hw ht⟩

end Session

end Highlight
