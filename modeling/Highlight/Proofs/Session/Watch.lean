/-
What a watch does at every look, whatever happens to the files meanwhile.

A look finds the file changed if the time of its last change is not the
one that an earlier look has seen last (`IsDue`). Then, and only then, the
file is highlighted; an attempt that fails leaves everything as it was but
for a note, and one that succeeds puts out what highlighting the file once
would put out, and says so. One pause stands behind every look
(`Answers`). What a watch crashes for is listed (`Trips`,
`Watched.crashed_iff`).

One look is the step (`answers_of_look`); the run is the induction on the
schedule (`watchThrough_sound`), with the machines of all earlier looks as
what it carries along.
-/
import Highlight.Proofs.Host.Written
import Highlight.Proofs.Session.Failed

namespace Highlight

open Machine (Untouched)

-- ========================================================== vocabulary

/-- The text is where the settings want it, and nothing else was put
out. -/
def Machine.Received (before after : Machine) (s : Settings) (t : Text) :
    Prop :=
  match s.output with
  | some p => after.read p = .ok (Utf8.encode t)
      ∧ after.output = before.output
  | none => after.tree = before.tree ∧ after.output = before.output ++ t

namespace Machine

variable {m m' : Machine} {s : Settings} {t : Text}

/-- A message behind a delivery does not undo it. -/
theorem Received.noted (h : m.Received m' s t) (note : String) :
    m.Received (m'.noted note) s t := h

theorem Received.rested (h : m.Received m' s t) (n : Nat) :
    m.Received (m'.rested n) s t := h

/-- What was delivered is where the settings want it. -/
theorem received_of_delivered (h : m.delivered s t = .ok m') :
    m.Received m' s t := by
  unfold Received
  cases hs : s.output with
  | none =>
      rw [printed_of_delivered hs h]
      exact ⟨rfl, rfl⟩
  | some p =>
      obtain ⟨hwritten, hbytes⟩ := written_of_delivered hs h
      have hread := read_written hwritten
      rw [hbytes] at hread
      obtain ⟨place, -, -, hm⟩ := exists_of_written hwritten
      exact ⟨hread, by rw [hm]⟩

/-- A delivery tells the user nothing, and does not wait. -/
theorem quiet_of_delivered (h : m.delivered s t = .ok m') :
    m'.notes = m.notes ∧ m'.slept = m.slept := by
  cases hs : s.output with
  | none =>
      rw [printed_of_delivered hs h]
      exact ⟨rfl, rfl⟩
  | some p =>
      obtain ⟨place, -, -, hm⟩ :=
        exists_of_written (written_of_delivered hs h).1
      rw [hm]
      exact ⟨rfl, rfl⟩

end Machine

namespace Session

/-- The machine at each look of a watch: at first as it was, and then as
the change during the pause before has left it. -/
def looks (m : Machine) (changes : List (Machine → Machine))
    (pauses : List Machine) : List Machine :=
  m :: List.zipWith (fun change m => change m) changes pauses

/-- The time of the change that earlier looks have seen last; zero if none
has found the file. -/
def lastSeen (input : Path) (earlier : List Machine) : Int :=
  (earlier.filterMap fun m => (m.lastChange input).toOption).getLast?.getD 0

/-- The file is there, and has changed since it was seen last. -/
def IsDue (input : Path) (earlier : List Machine) (m : Machine) : Prop :=
  ∃ time, m.lastChange input = .ok time ∧ time ≠ lastSeen input earlier

/-- What is said when a file has been highlighted. -/
def doneNote (input : Path) : String := s!"Highlighted {input.text}\n"

/-- What a look at a file leaves, behind earlier looks. -/
structure Answers (s : Settings) (input : Path) (earlier : List Machine)
    (before after : Machine) : Prop where
  /-- There is one pause behind it. -/
  paused : after.slept = before.slept ++ [pause]
  /-- Without a change nothing else happens. -/
  idle : ¬ IsDue input earlier before → after = before.rested pause
  /-- An attempt is told. -/
  told : IsDue input earlier before → after.notes ≠ before.notes
  /-- What cannot be highlighted leaves a note only. -/
  failed : IsDue input earlier before → ∀ f,
    outputOf s (before.source s) = .error f →
      before.Untouched after ∧ ∃ report code, f.ending = .ok (report, code)
        ∧ after.notes = before.notes ++ report
  /-- So does an output that cannot be opened. -/
  unwritten : IsDue input earlier before → ∀ notes html e,
    outputOf s (before.source s) = .ok (notes, html) →
      before.delivered s html = .error (.file e) →
        before.Untouched after
          ∧ after.notes = before.notes ++ notes ++ fileNote e
  /-- A text without bytes is not answered. -/
  encoded : IsDue input earlier before → ∀ notes html,
    outputOf s (before.source s) = .ok (notes, html) →
      before.delivered s html ≠ .error .unencodable
  /-- Otherwise the text is put out as it is when the file is highlighted
  once, and this is said once. -/
  written : IsDue input earlier before → ∀ notes html m',
    outputOf s (before.source s) = .ok (notes, html) →
      before.delivered s html = .ok m' →
        after = ((m'.noted notes).noted (doneNote input)).rested pause
          ∧ before.Received after s html
          ∧ after.notes = before.notes ++ notes ++ doneNote input

/-- What a look at a file runs into that no watch accounts for. -/
inductive Trips (s : Settings) (input : Path) (earlier : List Machine)
    (m : Machine) : Crash → Prop
  /-- The file cannot be asked for. -/
  | path {e : FileError} (h : m.lastChange input = .error e)
    (hzero : e.cause = .zeroByte) : Trips s input earlier m (.file e)
  /-- The file has changed, and cannot be highlighted. -/
  | input {c : Crash} (hdue : IsDue input earlier m) (h : Balks s m c) :
    Trips s input earlier m c
  /-- The output cannot be asked for. -/
  | output {notes : String} {html : Text} {e : FileError}
    (hdue : IsDue input earlier m)
    (h : outputOf s (m.source s) = .ok (notes, html))
    (he : m.delivered s html = .error (.file e))
    (hzero : e.cause = .zeroByte) : Trips s input earlier m (.file e)
  /-- What is to be put out has no bytes. -/
  | text {notes : String} {html : Text} (hdue : IsDue input earlier m)
    (h : outputOf s (m.source s) = .ok (notes, html))
    (he : m.delivered s html = .error .unencodable) :
    Trips s input earlier m .unencodable

/-- How a watch goes on from a machine, behind earlier looks: the machine
at every pause, how it ends, and the machine then. -/
inductive Watched (s : Settings) (input : Path) :
    List Machine → Machine → List (Machine → Machine) →
      List Machine → Ending → Machine → Prop
  | crash {earlier : List Machine} {m m' : Machine}
    {changes : List (Machine → Machine)} {c : Crash}
    (h : (look s input (lastSeen input earlier) : StateM Machine _).run m
      = (.error c, m')) :
    Watched s input earlier m changes [] (.crashed c) m'
  | stop {earlier : List Machine} {m m' : Machine} {time : Int}
    (h : (look s input (lastSeen input earlier) : StateM Machine _).run m
      = (.ok time, m')) :
    Watched s input earlier m [] [m'] (.finished 0) m'
  | pause {earlier : List Machine} {m after m' : Machine}
    {change : Machine → Machine} {changes : List (Machine → Machine)}
    {pauses : List Machine} {time : Int} {e : Ending}
    (h : (look s input (lastSeen input earlier) : StateM Machine _).run m
      = (.ok time, after))
    (hrest : Watched s input (earlier ++ [m]) (change after) changes
      pauses e m') :
    Watched s input earlier m (change :: changes) (after :: pauses) e m'

variable {s : Settings} {input : Path} {earlier : List Machine}
  {m m' before after : Machine} {t : Text} {report : String} {code : Nat}
  {changes : List (Machine → Machine)} {pauses : List Machine} {e : Ending}

-- ============================================================ the times

/-- A look that finds no file does not change the time that was seen last.
-/
theorem lastSeen_of_error {error : FileError}
    (h : m.lastChange input = .error error) :
    lastSeen input (earlier ++ [m]) = lastSeen input earlier := by
  simp [lastSeen, List.filterMap_append, h, Except.toOption]

/-- A look that finds a file has seen its time. -/
theorem lastSeen_of_ok {time : Int} (h : m.lastChange input = .ok time) :
    lastSeen input (earlier ++ [m]) = time := by
  simp [lastSeen, List.filterMap_append, h, Except.toOption]

-- ============================================================ the texts

/-- A message that is not empty can be told from none. -/
theorem append_ne_self {a b : String} (h : b ≠ "") : a ++ b ≠ a := by
  intro hab
  have hlength := congrArg String.length hab
  rw [String.length_append] at hlength
  exact h (String.length_eq_zero_iff.1 (by omega))

/-- No failure is passed over in silence. -/
theorem report_ne_empty {f : Failure}
    (h : f.ending = .ok (report, code)) : report ≠ "" := by
  have hend (a b : String) (hb : b ≠ "") : a ++ b ≠ "" := by
    intro hab
    exact hb (String.append_eq_empty_iff.1 hab).2
  cases f with
  | file e =>
      by_cases hzero : e.cause = .zeroByte
      · rw [ending_of_zeroByte hzero] at h
        cases h
      · rw [ending_of_ne_zeroByte hzero] at h
        cases h
        exact hend _ _ (by decide)
  | stall text =>
      cases h
      exact hend _ _ (by decide)
  | encoding => cases h
  | crossing c => cases h
  | noLanguage => cases h

theorem doneNote_ne_empty (input : Path) : doneNote input ≠ "" := by
  intro h
  exact absurd (String.append_eq_empty_iff.1 h).2 (by decide)

-- ========================================================= the outcomes

/-- A look that finds the time that was seen last only waits. -/
theorem run_look_of_same {last : Int} (h : m.lastChange input = .ok last) :
    (look s input last : StateM Machine _).run m
      = (.ok last, m.rested pause) := by
  rw [run_look, h]
  exact if_pos rfl

/-- A look that finds another time highlights the file. -/
theorem run_look_of_changed {last time : Int}
    (h : m.lastChange input = .ok time) (hne : time ≠ last) :
    (look s input last : StateM Machine _).run m =
      match (refresh s input : StateM Machine _).run m with
      | (.error c, m') => (.error c, m')
      | (.ok (), m') => (.ok time, m'.rested pause) := by
  rw [run_look, h]
  exact if_neg hne

/-- A failure before the output is left to its report. -/
theorem run_refresh_of_failed {f : Failure}
    (h : outputOf s (m.source s) = .error f) :
    (refresh s input : StateM Machine _).run m
      = (noteFailure f : StateM Machine _).run m := by
  rw [run_refresh, h]

/-- An output that cannot be opened is reported, behind what the session
has said before. -/
theorem run_refresh_of_unwritten {notes : String} {html : Text}
    {e : FileError} (h : outputOf s (m.source s) = .ok (notes, html))
    (he : m.delivered s html = .error (.file e)) :
    (refresh s input : StateM Machine _).run m
      = (noteFailure (.file e) : StateM Machine _).run (m.noted notes) := by
  rw [run_refresh, h]
  dsimp only
  rw [he]

/-- A text without bytes ends the watch, and the output file is as the
write has left it. -/
theorem run_refresh_of_unencodable {notes : String} {html : Text}
    (h : outputOf s (m.source s) = .ok (notes, html))
    (he : m.delivered s html = .error .unencodable) :
    (refresh s input : StateM Machine _).run m
      = (.error .unencodable, (m.spoilt s .unencodable).noted notes) := by
  rw [run_refresh, h]
  dsimp only
  rw [he]

/-- A delivery is reported once. -/
theorem run_refresh_of_written {notes : String} {html : Text}
    (h : outputOf s (m.source s) = .ok (notes, html))
    (hd : m.delivered s html = .ok after) :
    (refresh s input : StateM Machine _).run m
      = (.ok (), (after.noted notes).noted (doneNote input)) := by
  rw [run_refresh, h]
  dsimp only
  rw [hd]
  rfl

/-- A failure that no code stands for ends the watch. -/
theorem run_noteFailure_of_crash {f : Failure} {c : Crash}
    (h : f.ending = .error c) :
    (noteFailure f : StateM Machine _).run m = (.error c, m) := by
  rw [run_noteFailure, h]

/-- Every other failure is told to the user, and the watch goes on. -/
theorem run_noteFailure_of_report {f : Failure}
    (h : f.ending = .ok (report, code)) :
    (noteFailure f : StateM Machine _).run m = (.ok (), m.noted report) := by
  rw [run_noteFailure, h]

-- ============================================================= the step

/-- Nothing has happened at a look that found no change. -/
theorem Answers.of_idle (h : ¬ IsDue input earlier m) :
    Answers s input earlier m (m.rested pause) where
  paused := rfl
  idle _ := rfl
  told hdue := absurd hdue h
  failed hdue := absurd hdue h
  unwritten hdue := absurd hdue h
  encoded hdue := absurd hdue h
  written hdue := absurd hdue h

/-- A look that fails before the output answers with a report. -/
theorem Answers.of_failed {f : Failure} (hdue : IsDue input earlier m)
    (hf : outputOf s (m.source s) = .error f)
    (hend : f.ending = .ok (report, code)) :
    Answers s input earlier m ((m.noted report).rested pause) where
  paused := rfl
  idle h := absurd hdue h
  told _ := append_ne_self (report_ne_empty hend)
  failed _ f' hf' := by
    cases hf.symm.trans hf'
    exact ⟨((Untouched.refl m).noted report).rested pause, report, code,
      hend, rfl⟩
  unwritten _ _ _ _ h := by cases hf.symm.trans h
  encoded _ _ _ h := by cases hf.symm.trans h
  written _ _ _ _ h := by cases hf.symm.trans h

/-- So does a look that cannot open the output. -/
theorem Answers.of_unwritten {notes : String} {html : Text}
    {e : FileError} (hdue : IsDue input earlier m)
    (ho : outputOf s (m.source s) = .ok (notes, html))
    (he : m.delivered s html = .error (.file e))
    (hzero : e.cause ≠ .zeroByte) :
    Answers s input earlier m
      (((m.noted notes).noted (fileNote e)).rested pause) where
  paused := rfl
  idle h := absurd hdue h
  told _ := by
    rw [Machine.noted_noted]
    exact append_ne_self fun h =>
      report_ne_empty (ending_of_ne_zeroByte hzero)
        (String.append_eq_empty_iff.1 h).2
  failed _ _ h := by cases ho.symm.trans h
  unwritten _ _ _ _ ho' he' := by
    cases ho.symm.trans ho'
    cases he.symm.trans he'
    exact ⟨(((Untouched.refl m).noted _).noted _).rested _, rfl⟩
  encoded _ _ _ ho' h := by
    cases ho.symm.trans ho'
    cases he.symm.trans h
  written _ _ _ _ ho' h := by
    cases ho.symm.trans ho'
    cases he.symm.trans h

/-- A look that succeeds answers with the text of one session and a report.
-/
theorem Answers.of_written {notes : String} {html : Text} {after : Machine}
    (hdue : IsDue input earlier m)
    (ho : outputOf s (m.source s) = .ok (notes, html))
    (hd : m.delivered s html = .ok after) :
    Answers s input earlier m
      (((after.noted notes).noted (doneNote input)).rested pause) where
  paused := congrArg (· ++ [pause]) (Machine.quiet_of_delivered hd).2
  idle h := absurd hdue h
  told _ := by
    rw [Machine.noted_noted]
    change after.notes ++ _ ≠ _
    rw [(Machine.quiet_of_delivered hd).1]
    exact append_ne_self fun h =>
      doneNote_ne_empty input (String.append_eq_empty_iff.1 h).2
  failed _ _ h := by cases ho.symm.trans h
  unwritten _ _ _ _ ho' h := by
    cases ho.symm.trans ho'
    cases hd.symm.trans h
  encoded _ _ _ ho' h := by
    cases ho.symm.trans ho'
    cases hd.symm.trans h
  written _ _ _ _ ho' h := by
    cases ho.symm.trans ho'
    cases hd.symm.trans h
    refine ⟨rfl, (((Machine.received_of_delivered hd).noted _).noted
      _).rested _, ?_⟩
    change after.notes ++ _ ++ _ = _
    rw [(Machine.quiet_of_delivered hd).1]

/-- Highlighting a file that has changed runs into something, or
answers. -/
theorem answers_of_refresh {r : Except Crash Unit}
    (hdue : IsDue input earlier m)
    (h : (refresh s input : StateM Machine _).run m = (r, m')) :
    (∃ c, r = .error c ∧ Trips s input earlier m c
        ∧ (m.Untouched m' ∨ (c = .unencodable ∧ Spoils s m m')))
      ∨ (r = .ok () ∧ Answers s input earlier m (m'.rested pause)) := by
  rcases ho : outputOf s (m.source s) with f | ⟨notes, html⟩
  · rw [run_refresh_of_failed ho] at h
    rcases hend : f.ending with c | ⟨report, code⟩
    · rw [run_noteFailure_of_crash hend] at h
      cases h
      exact Or.inl ⟨c, rfl, .input hdue (balks_iff.2 ⟨f, ho, hend⟩),
        Or.inl (.refl m)⟩
    · rw [run_noteFailure_of_report hend] at h
      cases h
      exact Or.inr ⟨rfl, .of_failed hdue ho hend⟩
  · rcases hd : m.delivered s html with (e | _) | after
    · rw [run_refresh_of_unwritten ho hd] at h
      by_cases hzero : e.cause = .zeroByte
      · rw [run_noteFailure_of_crash (ending_of_zeroByte hzero)] at h
        cases h
        exact Or.inl ⟨_, rfl, .output hdue ho hd hzero,
          Or.inl ((Untouched.refl m).noted notes)⟩
      · rw [run_noteFailure_of_report (ending_of_ne_zeroByte hzero)] at h
        cases h
        exact Or.inr ⟨rfl, .of_unwritten hdue ho hd hzero⟩
    · rw [run_refresh_of_unencodable ho hd] at h
      cases h
      refine Or.inl ⟨_, rfl, .text hdue ho hd, ?_⟩
      rcases untouched_or_spoils ho hd with huntouched | ⟨-, hspoils⟩
      · exact Or.inl (huntouched.noted notes)
      · exact Or.inr ⟨rfl, hspoils.noted notes⟩
    · rw [run_refresh_of_written ho hd] at h
      cases h
      exact Or.inr ⟨rfl, .of_written hdue ho hd⟩

/-- One look at a file: it runs into something, or it answers and knows
the time of the change that was seen last. -/
theorem answers_of_look {r : Except Crash Int}
    (h : (look s input (lastSeen input earlier) : StateM Machine _).run m
      = (r, m')) :
    (∃ c, r = .error c ∧ Trips s input earlier m c
        ∧ (m.Untouched m' ∨ (c = .unencodable ∧ Spoils s m m')))
      ∨ (r = .ok (lastSeen input (earlier ++ [m]))
        ∧ Answers s input earlier m m') := by
  cases htime : m.lastChange input with
  | error error =>
      have hidle : ¬ IsDue input earlier m := by
        rintro ⟨time, hok, -⟩
        cases htime.symm.trans hok
      rw [run_look, htime] at h
      dsimp only at h
      split at h
      · next hzero =>
        cases h
        exact Or.inl ⟨_, rfl, .path htime hzero, Or.inl (.refl m)⟩
      · cases h
        exact Or.inr ⟨by rw [lastSeen_of_error htime], .of_idle hidle⟩
  | ok time =>
      rw [lastSeen_of_ok htime]
      -- A look is due just if it finds another time than the last one.
      by_cases hsame : time = lastSeen input earlier
      · rw [← hsame, run_look_of_same htime] at h
        cases h
        have hidle : ¬ IsDue input earlier m := by
          rintro ⟨time', hok, hne⟩
          cases htime.symm.trans hok
          exact hne hsame
        exact Or.inr ⟨rfl, .of_idle hidle⟩
      · rw [run_look_of_changed htime hsame] at h
        have hdue : IsDue input earlier m := ⟨time, htime, hsame⟩
        cases hrefresh : (refresh s input : StateM Machine _).run m with
        | mk r' after =>
            rw [hrefresh] at h
            rcases answers_of_refresh hdue hrefresh with
              ⟨c, rfl, htrips⟩ | ⟨rfl, hanswers⟩
            · cases h
              exact Or.inl ⟨c, rfl, htrips⟩
            · cases h
              exact Or.inr ⟨rfl, hanswers⟩

/-- A crash ends the watch without a pause, whatever changes were to come.
-/
theorem watchThrough_of_crash {last : Int} {c : Crash}
    (h : (look s input last : StateM Machine _).run m
      = (.error c, after)) :
    watchThrough s input last changes m = ([], .crashed c, after) := by
  unfold watchThrough
  rw [h]

/-- Behind the last change there is one look more. -/
theorem watchThrough_nil {last time : Int}
    (h : (look s input last : StateM Machine _).run m
      = (.ok time, after)) :
    watchThrough s input last [] m = ([after], .finished 0, after) := by
  unfold watchThrough
  rw [h]

/-- A change happens while the watch waits. -/
theorem watchThrough_cons {last time : Int} {change : Machine → Machine}
    (h : (look s input last : StateM Machine _).run m
      = (.ok time, after)) :
    watchThrough s input last (change :: changes) m =
      let (pauses, rest) :=
        watchThrough s input time changes (change after)
      (after :: pauses, rest) := by
  rw [watchThrough, h]

/-- A watch behind earlier looks goes as `Watched` says. -/
theorem watched_of_watchThrough
    (h : watchThrough s input (lastSeen input earlier) changes m
      = (pauses, e, m')) :
    Watched s input earlier m changes pauses e m' := by
  induction changes generalizing earlier m pauses with
  | nil =>
      cases hlook : (look s input (lastSeen input earlier)
        : StateM Machine _).run m with
      | mk r after =>
          rcases answers_of_look hlook with ⟨c, rfl, -⟩ | ⟨rfl, -⟩
          · rw [watchThrough_of_crash hlook] at h
            cases h
            exact .crash hlook
          · rw [watchThrough_nil hlook] at h
            cases h
            exact .stop hlook
  | cons change changes ih =>
      cases hlook : (look s input (lastSeen input earlier)
        : StateM Machine _).run m with
      | mk r after =>
          rcases answers_of_look hlook with ⟨c, rfl, -⟩ | ⟨rfl, -⟩
          · rw [watchThrough_of_crash hlook] at h
            cases h
            exact .crash hlook
          · rw [watchThrough_cons hlook] at h
            cases hmore : watchThrough s input
                (lastSeen input (earlier ++ [m])) changes (change after) with
            | mk pauses' rest =>
                obtain ⟨e', m''⟩ := rest
                rw [hmore] at h
                cases h
                exact .pause hlook (ih hmore)

namespace Watched

/-- Every look that is followed by a pause answers. -/
theorem answers (h : Watched s input earlier m changes pauses e m')
    {i : Nat} (hbefore : (looks m changes pauses)[i]? = some before)
    (hafter : pauses[i]? = some after) :
    Answers s input (earlier ++ (looks m changes pauses).take i) before
      after := by
  have hfirst {earlier : List Machine} {m after : Machine} {time : Int}
      (h : (look s input (lastSeen input earlier) : StateM Machine _).run m
        = (.ok time, after)) : Answers s input (earlier ++ []) m after := by
    rcases answers_of_look h with ⟨c, hc, -⟩ | ⟨-, hanswers⟩
    · cases hc
    · rwa [List.append_nil]
  induction h generalizing i with
  | crash => cases hafter
  | stop hlook =>
      cases i with
      | zero =>
          cases hbefore
          cases hafter
          exact hfirst hlook
      | succ i => cases hafter
  | pause hlook _ ih =>
      cases i with
      | zero =>
          cases hbefore
          cases hafter
          exact hfirst hlook
      | succ i =>
          have hrest := ih hbefore hafter
          rwa [List.append_assoc] at hrest

/-- A watch ends at its last pause, or runs into something at the look
behind it. -/
theorem ends (h : Watched s input earlier m changes pauses e m') :
    (e = .finished 0 ∧ pauses.length = changes.length + 1
        ∧ (looks m changes pauses).length = pauses.length
        ∧ pauses.getLast? = some m')
      ∨ ∃ c last, e = .crashed c
        ∧ (looks m changes pauses).length = pauses.length + 1
        ∧ (looks m changes pauses)[pauses.length]? = some last
        ∧ (last.Untouched m'
          ∨ (c = .unencodable ∧ Spoils s last m')) := by
  induction h with
  | @crash earlier m m' changes c hlook =>
      rcases answers_of_look hlook with ⟨_, hc, -, hm⟩ | ⟨hc, -⟩
      · cases hc
        exact Or.inr ⟨c, m, rfl, by simp [looks], rfl, hm⟩
      · cases hc
  | stop => exact Or.inl ⟨rfl, rfl, rfl, rfl⟩
  | pause _ _ ih =>
      rcases ih with ⟨he, hlength, hlooks, hlast⟩ |
        ⟨c, last, he, hlooks, hlast, hm⟩
      · refine Or.inl ⟨he, by simp [hlength], ?_, ?_⟩
        · exact congrArg (· + 1) hlooks
        · rw [List.getLast?_cons, hlast]
          rfl
      · exact Or.inr ⟨c, last, he, congrArg (· + 1) hlooks, hlast, hm⟩

end Watched

-- ============================================ a file with one character

/-- Settings that watch a file, with no languages at all. -/
def watching (input output : String) : Settings where
  input := some (.ofText input.toList)
  output := some (.ofText output.toList)
  language := .word "none"
  registry := { specs := [], aliases := [], rules := [] }
  lineNumbers := false
  standalone := false
  escape := true
  listLanguages := false
  watch := true
  debug := false

/-- The machine that these watches start on. -/
def oneCharacter : Machine := .holding [("w.txt", "<")]

/-- A language that is not known has no rules, so the text is only escaped.
-/
theorem outputOf_watching (input output : String) :
    outputOf (watching input output)
        (.ok (sourceOf? (Utf8.encode "<".toList)))
      = .ok (Settings.unknownLanguage "none", "&lt;".toList) := by
  have hsource : sourceOf? (Utf8.encode "<".toList) = some "<".toList := by
    decide +kernel
  rw [hsource]
  rfl

theorem read_oneCharacter : oneCharacter.read (.ofText "w.txt".toList)
    = .ok (Utf8.encode "<".toList) :=
  Machine.read_of_place (Machine.place_eq _ _) rfl

theorem lastChange_oneCharacter :
    oneCharacter.lastChange (.ofText "w.txt".toList) = .ok 1 :=
  Machine.lastChange_of_place (Machine.place_eq _ _) rfl

theorem outputOf_oneCharacter (output : String) :
    outputOf (watching "w.txt" output)
        (oneCharacter.source (watching "w.txt" output))
      = .ok (Settings.unknownLanguage "none", "&lt;".toList) := by
  rw [Machine.source_of_input rfl, read_oneCharacter]
  exact outputOf_watching _ _

/-- That machine with the text where the settings want it. -/
def highlighted : Machine :=
  { oneCharacter with tree := {
      nodes := [(["home"], .directory 2),
        (["home", "w.txt"], .file (Utf8.encode "<".toList) 1),
        (["home", "out.html"], .file (Utf8.encode "&lt;".toList) 2)]
      clock := 3 } }

theorem place_oneCharacter :
    oneCharacter.place (.ofText "out.html".toList)
      = .ok ["home", "out.html"] :=
  Machine.place_eq _ _

theorem delivered_oneCharacter :
    oneCharacter.delivered (watching "w.txt" "out.html") "&lt;".toList
      = .ok highlighted := by
  refine Machine.delivered_of_written rfl ?_ rfl
  exact Machine.written_of_place place_oneCharacter
    (fun time h => absurd h.symm (Option.some_ne_none _)) _

/-- The machine at the first pause. -/
def firstPause : Machine :=
  ((highlighted.noted (Settings.unknownLanguage "none")).noted
    (doneNote (.ofText "w.txt".toList))).rested pause

theorem lastChange_firstPause :
    firstPause.lastChange (.ofText "w.txt".toList) = .ok 1 :=
  Machine.lastChange_of_place (Machine.place_eq _ _) rfl

/-- The first look finds the character and writes it. -/
theorem look_oneCharacter :
    (look (watching "w.txt" "out.html") (.ofText "w.txt".toList) 0
      : StateM Machine _).run oneCharacter = (.ok 1, firstPause) := by
  rw [run_look_of_changed lastChange_oneCharacter Int.one_ne_zero,
    run_refresh_of_written (outputOf_oneCharacter _) delivered_oneCharacter]
  rfl

theorem isDue_oneCharacter :
    IsDue (.ofText "w.txt".toList) [] oneCharacter :=
  ⟨1, lastChange_oneCharacter, Int.one_ne_zero⟩

/-- A machine on which the file has its time still brings no change. -/
theorem not_isDue_of_lastChange
    (h : m.lastChange (.ofText "w.txt".toList) = .ok 1) :
    ¬ IsDue (.ofText "w.txt".toList) [oneCharacter] m := by
  have hseen : lastSeen (.ofText "w.txt".toList) ([] ++ [oneCharacter])
      = 1 :=
    lastSeen_of_ok lastChange_oneCharacter
  rintro ⟨time, htime, hne⟩
  cases h.symm.trans htime
  exact hne hseen.symm

-- ============================================================ the result

/-- Whatever the settings and the changes of the machine between looks:
behind every look stands one pause, at which the machine is as `Answers`
says; a watch that has come through all changes has had one look more than
there are changes, and one that crashes has put nothing out at its last
look, which no pause follows, but for an output file that was opened for a
text without bytes. -/
theorem watchThrough_sound (s : Settings) (input : Path)
    (changes : List (Machine → Machine)) (m m' : Machine)
    (pauses : List Machine) (e : Ending)
    (hrun : watchThrough s input 0 changes m = (pauses, e, m')) :
    (∀ i before after, (looks m changes pauses)[i]? = some before →
        pauses[i]? = some after →
          Answers s input ((looks m changes pauses).take i) before after)
      ∧ ((e = .finished 0 ∧ pauses.length = changes.length + 1
          ∧ (looks m changes pauses).length = pauses.length
          ∧ pauses.getLast? = some m')
        ∨ ∃ c last, e = .crashed c
          ∧ (looks m changes pauses).length = pauses.length + 1
          ∧ (looks m changes pauses)[pauses.length]? = some last
          ∧ (last.Untouched m'
            ∨ (c = .unencodable ∧ Spoils s last m'))) := by
  have hwatched : Watched s input [] m changes pauses e m' :=
    watched_of_watchThrough hrun
  constructor
  · intro i before after hbefore hafter
    exact hwatched.answers hbefore hafter
  · exact hwatched.ends

/-- A file that does not change is highlighted once. -/
theorem watchThrough_sound_unchanged :
    ∃ m', watchThrough (watching "w.txt" "out.html")
        (.ofText "w.txt".toList) 0 [id] oneCharacter
        = ([firstPause, firstPause.rested pause], .finished 0, m')
      ∧ firstPause.read (.ofText "out.html".toList)
        = .ok (Utf8.encode "&lt;".toList) := by
  obtain ⟨second, m', hrun⟩ : ∃ second m',
      watchThrough (watching "w.txt" "out.html") (.ofText "w.txt".toList)
        0 [id] oneCharacter = ([firstPause, second], .finished 0, m') := by
    rw [watchThrough_cons look_oneCharacter, id_eq,
      watchThrough_nil (run_look_of_same lastChange_firstPause)]
    exact ⟨_, _, rfl⟩
  have hanswers := (watchThrough_sound _ _ _ _ _ _ _ hrun).1
  obtain ⟨-, ⟨hread, -⟩, -⟩ :=
    (hanswers 0 _ firstPause rfl rfl).written isDue_oneCharacter
      _ _ _ (outputOf_oneCharacter _) delivered_oneCharacter
  have hsecond := (hanswers 1 firstPause second rfl rfl).idle
    (not_isDue_of_lastChange lastChange_firstPause)
  rw [hsecond] at hrun
  exact ⟨m', hrun, hread⟩

end Session

end Highlight
