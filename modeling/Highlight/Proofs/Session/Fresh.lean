/-
How far a watch keeps its output up to date.

A watch follows the input and nothing else. It does not go back to an
attempt that has failed, and it does not see what becomes of the output. So
at a pause the output is up to date on two conditions: at the last look
that found a change, the input could be read and the output be written, and
since then nobody else has written to the output (`watchThrough_fresh`).
Between that look and the pause the input keeps its time (`Latest`), so by
its time it has the content that it had then.
-/
import Highlight.Proofs.Session.Watch
import Mathlib.Data.Nat.Init

namespace Highlight

-- ========================================================== vocabulary

namespace Session

/-- The look `j` is the last one up to the look `n` that found a change,
and saw the machine `m`. -/
structure Latest (input : Path) (seen : List Machine) (j n : Nat)
    (m : Machine) : Prop where
  le : j ≤ n
  look : seen[j]? = some m
  due : IsDue input (seen.take j) m
  idle : ∀ k later, j < k → k ≤ n → seen[k]? = some later →
    ¬ IsDue input (seen.take k) later

/-- The time of the last change of a file tells its content. -/
def Dated (input : Path) (seen : List Machine) : Prop :=
  ∀ a ∈ seen, ∀ b ∈ seen, ∀ time, a.lastChange input = .ok time →
    b.lastChange input = .ok time →
      ∀ x y, a.read input = .ok x → b.read input = .ok y → x = y

/-- During the pauses from `j` up to `n` nobody changes the file. -/
def LeftAlone (output : Path) (seen pauses : List Machine) (j n : Nat) :
    Prop :=
  ∀ k after before, j ≤ k → k < n → pauses[k]? = some after →
    seen[k + 1]? = some before → before.read output = after.read output

end Session

namespace Machine

/-- A file that can be read has a time. -/
theorem exists_lastChange_of_read {m : Machine} {p : Path} {bytes : Bytes}
    (h : m.read p = .ok bytes) : ∃ time, m.lastChange p = .ok time := by
  unfold lastChange
  unfold read at h
  cases hnode : m.node p with
  | error cause =>
      rw [hnode] at h
      cases h
  | ok n => exact ⟨n.changed, rfl⟩

end Machine

namespace Session

variable {s : Settings} {input output : Path} {earlier : List Machine}
  {seen pauses : List Machine} {m before after : Machine} {j n : Nat}
  {time : Int} {bytes : Bytes}

-- ============================================================ the times

/-- A look that finds no change leaves the time that was seen last. -/
theorem lastSeen_of_not_isDue (h : ¬ IsDue input earlier m) :
    lastSeen input (earlier ++ [m]) = lastSeen input earlier := by
  cases htime : m.lastChange input with
  | error error => exact lastSeen_of_error htime
  | ok time =>
      rw [lastSeen_of_ok htime]
      by_contra hne
      exact h ⟨time, htime, hne⟩

namespace Latest

/-- From the last look that found a change on, its time is the one that
was seen last. -/
theorem lastSeen_eq (h : Latest input seen j n m)
    (htime : m.lastChange input = .ok time) (hn : n < seen.length) {k : Nat}
    (hjk : j ≤ k) (hkn : k ≤ n) :
    lastSeen input (seen.take (k + 1)) = time := by
  induction k, hjk using Nat.le_induction with
  | base =>
      rw [List.take_add_one, h.look]
      exact lastSeen_of_ok htime
  | succ k hjk ih =>
      have hk : k + 1 < seen.length := by omega
      have hlook := List.getElem?_eq_getElem hk
      have hidle := h.idle (k + 1) _ (by omega) hkn hlook
      rw [List.take_add_one, hlook]
      exact (lastSeen_of_not_isDue hidle).trans (ih (by omega))

/-- The file has its time still. -/
theorem lastChange_eq (h : Latest input seen j n m)
    (hbefore : seen[n]? = some before)
    (htime : before.lastChange input = .ok time) :
    m.lastChange input = .ok time := by
  rcases Nat.eq_or_lt_of_le h.le with rfl | hlt
  · cases h.look.symm.trans hbefore
    exact htime
  · obtain ⟨first, hfirst, -⟩ := h.due
    have hn : n < seen.length := (List.getElem?_eq_some_iff.1 hbefore).1
    obtain ⟨k, rfl⟩ : ∃ k, n = k + 1 := ⟨n - 1, by omega⟩
    have hlast := h.lastSeen_eq hfirst hn (Nat.le_of_lt_succ hlt)
      (Nat.le_succ k)
    have hsame : time = lastSeen input (seen.take (k + 1)) := by
      by_contra hne
      exact h.idle (k + 1) before hlt (Nat.le_refl _) hbefore
        ⟨time, htime, hne⟩
    rw [hsame, hlast]
    exact hfirst

-- =========================================================== the output

/-- What the output holds behind the last look that found a change, it
holds at all pauses that follow. -/
theorem read_eq (h : Latest input seen j n m)
    (hanswers : ∀ i before after, seen[i]? = some before →
      pauses[i]? = some after →
        Answers s input (seen.take i) before after)
    (halone : LeftAlone output seen pauses j n) (hn : n < seen.length)
    (hread : ∀ after, pauses[j]? = some after →
      after.read output = .ok bytes) {k : Nat} (hjk : j ≤ k) (hkn : k ≤ n)
    (hafter : pauses[k]? = some after) :
    after.read output = .ok bytes := by
  induction k, hjk using Nat.le_induction generalizing after with
  | base => exact hread after hafter
  | succ k hjk ih =>
      have hpause : k + 1 < pauses.length :=
        (List.getElem?_eq_some_iff.1 hafter).1
      have hprior := List.getElem?_eq_getElem (Nat.lt_of_succ_lt hpause)
      have hlook := List.getElem?_eq_getElem (Nat.lt_of_le_of_lt hkn hn)
      have hidle := h.idle (k + 1) _ (by omega) hkn hlook
      rw [(hanswers _ _ _ hlook hafter).idle hidle,
        Machine.read_rested, halone k _ _ hjk hkn hprior hlook]
      exact ih (by omega) hprior

end Latest

/-- Looks that find one content know it by its time. -/
theorem dated_pair {input : Path} {a b : Machine} {bytes : Bytes}
    (ha : a.read input = .ok bytes) (hb : b.read input = .ok bytes) :
    Dated input [a, b] := by
  have hcontent (c : Machine) (hc : c ∈ [a, b]) :
      c.read input = .ok bytes := by
    rcases List.mem_pair.1 hc with rfl | rfl
    · exact ha
    · exact hb
  intro c hc d hd _ _ _ x y hx hy
  cases (hcontent c hc).symm.trans hx
  cases (hcontent d hd).symm.trans hy
  rfl

-- ============================================================ the result

/-- If at the last look that found a change the input could be read and the
output be written, and the output was left alone since, then the output
holds what highlighting the present content of the input gives. -/
theorem watchThrough_fresh (s : Settings) (input output : Path)
    (changes : List (Machine → Machine))
    (m m' attempted before after : Machine) (pauses : List Machine)
    (e : Ending) (j n : Nat) (found bytes : Bytes) (notes : String)
    (html : Text) (hinput : s.input = some input)
    (houtput : s.output = some output)
    (hrun : watchThrough s input 0 changes m = (pauses, e, m'))
    (hdated : Dated input (looks m changes pauses))
    (hbefore : (looks m changes pauses)[n]? = some before)
    (hafter : pauses[n]? = some after)
    (hlatest : Latest input (looks m changes pauses) j n attempted)
    (hfound : attempted.read input = .ok found)
    (hwritable : attempted.CanWrite output)
    (halone : LeftAlone output (looks m changes pauses) pauses j n)
    (hread : before.read input = .ok bytes)
    (hhtml : outputOf s (.ok (sourceOf? bytes)) = .ok (notes, html)) :
    after.read output = .ok (Utf8.encode html) := by
  have hwatched : Watched s input [] m changes pauses e m' :=
    watched_of_watchThrough hrun
  have hn := (List.getElem?_eq_some_iff.1 hbefore).1
  -- by its time the input had its present content at that look
  obtain ⟨time, htime⟩ := Machine.exists_lastChange_of_read hread
  have hsame : found = bytes :=
    hdated attempted (List.mem_of_getElem? hlatest.look) before
      (List.mem_of_getElem? hbefore) time
      (hlatest.lastChange_eq hbefore htime) htime found bytes hfound hread
  have hsource : outputOf s (attempted.source s) = .ok (notes, html) := by
    rw [Machine.source_of_input hinput, hfound, hsame]
    exact hhtml
  obtain ⟨opened, hopened⟩ := hwritable.exists_written html
  refine hlatest.read_eq (fun i a b ha hb => hwatched.answers ha hb)
    halone hn (fun done hdone => ?_) hlatest.le (Nat.le_refl _) hafter
  have hanswers := hwatched.answers hlatest.look hdone
  -- without bytes for the text no pause would have followed that look
  have hdelivered : attempted.delivered s html = .ok opened := by
    cases ht : attempted.encode? html with
    | none =>
        exact absurd (Machine.delivered_of_unencodable houtput hopened ht)
          (hanswers.encoded hlatest.due notes html hsource)
    | some content => exact Machine.delivered_of_written houtput hopened ht
  obtain ⟨-, hreceived, -⟩ :=
    hanswers.written hlatest.due notes html opened hsource hdelivered
  unfold Machine.Received at hreceived
  rw [houtput] at hreceived
  exact hreceived.1

/-- A file that has not changed since is up to date at the next pause. -/
theorem watchThrough_fresh_unchanged :
    ∃ after m', watchThrough (watching "w.txt" "out.html")
        (.ofText "w.txt".toList) 0 [id] oneCharacter
        = ([firstPause, after], .finished 0, m')
      ∧ after.read (.ofText "out.html".toList)
        = .ok (Utf8.encode "&lt;".toList) := by
  obtain ⟨after, m', hrun⟩ : ∃ after m',
      watchThrough (watching "w.txt" "out.html") (.ofText "w.txt".toList)
        0 [id] oneCharacter = ([firstPause, after], .finished 0, m') := by
    rw [watchThrough_cons look_oneCharacter, id_eq,
      watchThrough_nil (run_look_of_same lastChange_firstPause)]
    exact ⟨_, _, rfl⟩
  have hread : firstPause.read (.ofText "w.txt".toList)
      = .ok (Utf8.encode "<".toList) :=
    Machine.read_of_place (Machine.place_eq _ _) rfl
  have hlatest : Latest (.ofText "w.txt".toList) [oneCharacter, firstPause]
      0 1 oneCharacter := by
    refine ⟨Nat.zero_le 1, rfl, isDue_oneCharacter, ?_⟩
    intro k later hk hk' hlater
    obtain rfl : k = 1 := by omega
    cases hlater
    exact not_isDue_of_lastChange lastChange_firstPause
  have halone : LeftAlone (.ofText "out.html".toList)
      [oneCharacter, firstPause] [firstPause, after] 0 1 := by
    intro k left found _ hk hleft hfound
    obtain rfl : k = 0 := by omega
    cases hleft
    cases hfound
    rfl
  have hwritable := Machine.canWrite_of_absent place_oneCharacter rfl
  refine ⟨after, m', hrun, ?_⟩
  exact watchThrough_fresh _ _ _ _ _ _ _ firstPause after _ _ 0 1 _ _ _ _
    rfl rfl hrun (dated_pair read_oneCharacter hread) rfl rfl hlatest
    read_oneCharacter hwritable halone hread (outputOf_watching _ _)

-- ==================================================== what is not kept

/-- That the output is up to date at every pause, if the input could be
read and highlighted and the output be written at the look before it, for a
file whose times tell its content. -/
def KeepsFresh (s : Settings) (input output : Path)
    (changes : List (Machine → Machine)) (m : Machine) : Prop :=
  ∀ pauses e m', watchThrough s input 0 changes m = (pauses, e, m') →
    Dated input (looks m changes pauses) →
      ∀ (n : Nat) (before after : Machine) bytes notes html,
        (looks m changes pauses)[n]? = some before →
          pauses[n]? = some after → before.read input = .ok bytes →
            outputOf s (.ok (sourceOf? bytes)) = .ok (notes, html) →
              before.CanWrite output →
                after.read output = .ok (Utf8.encode html)

/-- The directory of the output is made. -/
def withDirectory (m : Machine) : Machine :=
  { m with tree := m.tree.makeDirectory ["home", "no"] }

/-- The output is taken away. -/
def withoutOutput (m : Machine) : Machine :=
  { m with tree := m.tree.remove ["home", "out.html"] }

/-- The output is stale behind a change that leaves the input alone and
nothing where the output is to be. -/
theorem not_keepsFresh_of_change {output : String} {first : Machine}
    {change : Machine → Machine} {there place : Place}
    (hlook : (look (watching "w.txt" output) (.ofText "w.txt".toList) 0
      : StateM Machine _).run oneCharacter = (.ok 1, first))
    (hthere : (change first).place (.ofText "w.txt".toList) = .ok there)
    (hfile : (change first).tree.node? there
      = some (.file (Utf8.encode "<".toList) 1))
    (hplace : (change first).place (.ofText output.toList) = .ok place)
    (hnone : (change first).tree.node? place = none) :
    ¬ KeepsFresh (watching "w.txt" output) (.ofText "w.txt".toList)
      (.ofText output.toList) [change] oneCharacter := by
  intro h
  have htime := Machine.lastChange_of_place hthere hfile
  have hread := Machine.read_of_place hthere hfile
  have hrun : watchThrough (watching "w.txt" output)
      (.ofText "w.txt".toList) 0 [change] oneCharacter
      = ([first, (change first).rested pause], .finished 0,
          (change first).rested pause) := by
    rw [watchThrough_cons hlook, watchThrough_nil (run_look_of_same htime)]
  have hfresh := h _ _ _ hrun (dated_pair read_oneCharacter hread) 1
    (change first) ((change first).rested pause) _ _ _ rfl rfl hread
    (outputOf_watching _ _) (Machine.canWrite_of_absent hplace hnone)
  rw [Machine.read_rested, Machine.read_of_absent hplace hnone] at hfresh
  cases hfresh

/-- A watch does not go back to an output that could not be written, nor
to one that is gone. -/
theorem not_keepsFresh :
    ¬ KeepsFresh (watching "w.txt" "no/out.html") (.ofText "w.txt".toList)
        (.ofText "no/out.html".toList) [withDirectory] oneCharacter
      ∧ ¬ KeepsFresh (watching "w.txt" "out.html") (.ofText "w.txt".toList)
        (.ofText "out.html".toList) [withoutOutput] oneCharacter := by
  constructor
  · have herror : oneCharacter.delivered (watching "w.txt" "no/out.html")
        "&lt;".toList
          = .error (.file ⟨.missing, .ofText "no/out.html".toList⟩) :=
      Machine.delivered_of_unopened rfl
        (Machine.written_of_unplaced (Machine.place_eq _ _) _)
    obtain ⟨note, hlook⟩ : ∃ note, (look (watching "w.txt" "no/out.html")
        (.ofText "w.txt".toList) 0 : StateM Machine _).run oneCharacter
          = (.ok 1, (oneCharacter.noted note).rested pause) := by
      rw [run_look_of_changed lastChange_oneCharacter Int.one_ne_zero,
        run_refresh_of_unwritten (outputOf_oneCharacter _) herror,
        run_noteFailure_of_report (ending_of_ne_zeroByte (by decide)),
        Machine.noted_noted]
      exact ⟨_, rfl⟩
    exact not_keepsFresh_of_change hlook (Machine.place_eq _ _) rfl
      (Machine.place_eq _ _) rfl
  · exact not_keepsFresh_of_change look_oneCharacter
      (Machine.place_eq _ _) rfl (Machine.place_eq _ _) rfl

end Session

end Highlight
