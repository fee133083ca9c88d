/-
Cursors that are moved in several steps.

Where a cursor stands depends on how far it has come, not on the steps that
took it there. At each offset of a text there is one cursor to stand, and
all that it tells is told by the text: its row and column, the rest of the
line, the character and whether a line follows (`StandsAt`).

A step within the text leads from the cursor at one offset to the one at
the next (`StandsAt.step_cases`). So of several steps, all that come to no
more than the text lead to the cursor at their total, and the first one
that comes to more leads outside (`steps_stand`).
-/
import Highlight.Proofs.Scan.Delimited
import Mathlib.Algebra.Ring.Nat

namespace Highlight.Walk

open Text (positionAt restAt)

-- ========================================================== vocabulary

/-- The cursor stands at an offset of the text. -/
structure StandsAt (source : Text) (o : Nat) (c : Cursor) : Prop where
  le : o ≤ source.length
  lines_eq : c.lines = Text.lines source
  position_eq : c.position = positionAt source o
  lineRest_eq : c.lineRest = restAt source o
  char_eq : ∀ h : o < source.length, c.char = source[o]
  onLastLine_iff : c.onLastLine = true ↔ '\n' ∉ source.drop o

/-- What each of several steps leads to, up to the first one that leads
outside. -/
def steps : List Nat → Cursor → List (Except Fault Cursor)
  | [], _ => []
  | n :: ns, c =>
    match step n c with
    | .error f => [.error f]
    | .ok d => .ok d :: steps ns d

variable {source : Text} {o i n : Nat} {ns : List Nat} {c d : Cursor}
  {f : Fault}

-- ============================================================= standing

/-- No line follows just if no line feed is ahead. -/
theorem onLastLine_iff_not_mem (c : Cursor) :
    c.onLastLine = true ↔ '\n' ∉ c.ahead := by
  rw [Cursor.onLastLine_iff]
  rcases c.ahead_cases with ⟨hn, ha⟩ | ⟨d, hd, ha⟩
  · rw [ha]
    exact iff_of_true hn c.lineFeed_not_mem_lineRest
  · rw [hd, ha]
    exact iff_of_false nofun fun h => h (by simp)

/-- The cursor at an offset is the one that a single step from the start
leads to. -/
theorem standsAt_iff :
    StandsAt source o c ↔ (Cursor.start source).advance? o = some c := by
  constructor
  · intro h
    obtain ⟨d, hd, -⟩ := exists_step (c := .start source) (n := o)
      (by rw [Cursor.ahead_start]; exact h.le)
    rw [hd]
    refine congrArg some (Cursor.eq_of_position_eq ?_ ?_)
    · exact (Cursor.lines_of_advance? hd).trans h.lines_eq.symm
    · exact (reach_start hd).2.1.trans h.position_eq.symm
  · intro h
    obtain ⟨hle, hposition, hahead⟩ := reach_start h
    exact {
      le := hle
      lines_eq := Cursor.lines_of_advance? h
      position_eq := hposition
      lineRest_eq := by rw [c.lineRest_eq_firstLine, hahead]; rfl
      char_eq := fun ho => by
        have hchar := Cursor.head?_ahead c
          (by rw [hahead]; exact Scan.drop_ne_nil ho)
        rw [hahead, List.head?_drop, List.getElem?_eq_getElem ho] at hchar
        exact (Option.some.inj hchar).symm
      onLastLine_iff := by rw [onLastLine_iff_not_mem, hahead] }

theorem standsAt_start (source : Text) :
    StandsAt source 0 (.start source) := by
  rw [standsAt_iff]
  obtain ⟨d, hd, -⟩ := exists_step (c := .start source) (Nat.zero_le _)
  rw [hd]
  refine congrArg some (Cursor.eq_of_position_eq ?_ ?_)
  · exact Cursor.lines_of_advance? hd
  · exact Cursor.position_of_advance? hd

/-- At every offset there is one cursor to stand. -/
theorem existsUnique_standsAt (ho : o ≤ source.length) :
    ∃! c, StandsAt source o c := by
  obtain ⟨d, hd, -⟩ := exists_step (c := .start source) (n := o)
    (by rw [Cursor.ahead_start]; exact ho)
  refine ⟨d, standsAt_iff.2 hd, fun c hc => ?_⟩
  exact Option.some.inj ((standsAt_iff.1 hc).symm.trans hd)

-- ============================================================= stepping

/-- Steps may be taken together. -/
theorem step_add (a b : Nat) (c : Cursor) :
    step (a + b) c = step a c >>= step b := by
  unfold step
  rw [Cursor.advance?_add]
  cases c.advance? a with
  | none => rfl
  | some d => rfl

/-- A step leads to the cursor at the next offset, or outside. -/
theorem StandsAt.step_cases (h : StandsAt source o c) (n : Nat) :
    (∃ d, step n c = .ok d ∧ StandsAt source (o + n) d)
      ∨ source.length < o + n ∧ step n c = .error .outside := by
  have hstep : (Cursor.start source).advance? (o + n) = c.advance? n := by
    rw [Cursor.advance?_add, standsAt_iff.1 h]
    rfl
  unfold step
  cases hd : c.advance? n with
  | some d => exact Or.inl ⟨d, rfl, standsAt_iff.2 (hstep.trans hd)⟩
  | none =>
      refine Or.inr ⟨?_, rfl⟩
      have hnot := (Cursor.advance?_isSome_iff (o + n) _).not.1
        (by rw [hstep, hd]; exact nofun)
      rwa [Cursor.ahead_start, Nat.not_le] at hnot

/-- The steps that lead to a cursor are those whose total is within the
text; they lead to the cursor at the total. -/
theorem getElem?_steps_eq_ok (h : StandsAt source o c) :
    (steps ns c)[i]? = some (.ok d)
      ↔ i < ns.length ∧ StandsAt source (o + (ns.take (i + 1)).sum) d := by
  induction ns generalizing o c i with
  | nil => exact iff_of_false nofun fun h => nomatch h.1
  | cons n ns ih =>
      unfold steps
      rcases h.step_cases n with ⟨e, hstep, he⟩ | ⟨hlt, hstep⟩
      · rw [hstep]
        cases i with
        | zero =>
            have hunique (hd : StandsAt source (o + n) d) : e = d :=
              (existsUnique_standsAt he.le).unique he hd
            simp only [List.getElem?_cons_zero, Option.some.injEq,
              Except.ok.injEq, List.length_cons, Nat.zero_add,
              List.take_succ_cons, List.take_zero, List.sum_cons,
              List.sum_nil, Nat.add_zero]
            exact ⟨fun hd => ⟨Nat.succ_pos _, hd ▸ he⟩, fun hd => hunique hd.2⟩
        | succ i =>
            rw [List.getElem?_cons_succ, ih he, List.length_cons,
              Nat.succ_lt_succ_iff, List.take_succ_cons, List.sum_cons,
              Nat.add_assoc]
      · rw [hstep]
        -- nothing follows the first step, and the total only grows
        refine iff_of_false (fun hd => ?_) fun hd => ?_
        · cases i with
          | zero => cases hd
          | succ i => cases hd
        · have hle := hd.2.le
          rw [List.take_succ_cons, List.sum_cons] at hle
          omega

/-- The step that leads outside is the first one whose total is more than
the text. -/
theorem getElem?_steps_eq_error (h : StandsAt source o c) :
    (steps ns c)[i]? = some (.error f)
      ↔ f = .outside ∧ i < ns.length
        ∧ o + (ns.take i).sum ≤ source.length
        ∧ source.length < o + (ns.take (i + 1)).sum := by
  induction ns generalizing o c i with
  | nil => exact iff_of_false nofun fun h => nomatch h.2.1
  | cons n ns ih =>
      unfold steps
      have hle := h.le
      -- The first step succeeds, and totals are counted from behind it, or
      -- it leads outside and no other is made.
      rcases h.step_cases n with ⟨e, hstep, he⟩ | ⟨hlt, hstep⟩
      · rw [hstep]
        cases i with
        | zero =>
            have hle := he.le
            refine iff_of_false nofun fun hf => ?_
            simp only [Nat.zero_add, List.take_succ_cons, List.take_zero,
              List.sum_cons, List.sum_nil] at hf
            omega
        | succ i =>
            rw [List.getElem?_cons_succ, ih he, List.length_cons,
              Nat.succ_lt_succ_iff, List.take_succ_cons, List.sum_cons,
              List.take_succ_cons, List.sum_cons, Nat.add_assoc,
              Nat.add_assoc]
      · rw [hstep]
        cases i with
        | zero =>
            simp only [List.getElem?_cons_zero, Option.some.injEq,
              Except.error.injEq, List.length_cons, List.take_zero,
              List.sum_nil, Nat.add_zero, Nat.zero_add, List.take_succ_cons,
              List.sum_cons]
            exact ⟨fun hf => ⟨hf.symm, Nat.succ_pos _, hle, hlt⟩,
              fun hf => hf.1.symm⟩
        | succ i =>
            refine iff_of_false nofun fun hf => ?_
            have hsum := hf.2.2.1
            rw [List.take_succ_cons, List.sum_cons] at hsum
            omega

-- =========================================================== the result

/-- Of several steps from the start of a text, those whose total is within
the text lead to the one cursor that stands at the total, the first whose
total is more leads outside, and none is taken after it. Steps may be taken
together. -/
theorem steps_stand (source : Text) (ns : List Nat) :
    (∀ o ≤ source.length, ∃! c, StandsAt source o c)
      ∧ StandsAt source 0 (.start source)
      ∧ (∀ i c, (steps ns (.start source))[i]? = some (.ok c)
          ↔ i < ns.length ∧ StandsAt source (ns.take (i + 1)).sum c)
      ∧ (∀ i f, (steps ns (.start source))[i]? = some (.error f)
          ↔ f = .outside ∧ i < ns.length
            ∧ (ns.take i).sum ≤ source.length
            ∧ source.length < (ns.take (i + 1)).sum)
      ∧ ∀ a b c, step (a + b) c = step a c >>= step b := by
  have hstart := standsAt_start source
  refine ⟨fun o ho => existsUnique_standsAt ho, hstart, fun i c => ?_,
    fun i f => ?_, step_add⟩
  · rw [getElem?_steps_eq_ok hstart, Nat.zero_add]
  · rw [getElem?_steps_eq_error hstart, Nat.zero_add, Nat.zero_add]

/-- Steps to the end of a line, over an empty line, to the empty line behind
the last line feed, and outside. -/
theorem steps_stand_blank :
    (∃ c, (steps [1, 2, 2, 1] (.start "a\n\nb\n".toList))[0]? = some (.ok c)
        ∧ c.position = ⟨0, 1, 1⟩ ∧ c.lineRest = [] ∧ c.char = '\n')
      ∧ (∃ c, (steps [1, 2, 2, 1] (.start "a\n\nb\n".toList))[2]?
          = some (.ok c)
        ∧ c.position = ⟨3, 0, 5⟩ ∧ c.onLastLine = true)
      ∧ (steps [1, 2, 2, 1] (.start "a\n\nb\n".toList))[3]?
        = some (.error .outside) := by
  obtain ⟨hstand, -, hok, herror, -⟩ :=
    steps_stand "a\n\nb\n".toList [1, 2, 2, 1]
  obtain ⟨c, hc, -⟩ := hstand 1 (by decide)
  obtain ⟨d, hd, -⟩ := hstand 5 (by decide)
  refine ⟨⟨c, (hok 0 c).2 ⟨by decide, hc⟩, ?_, ?_, ?_⟩,
    ⟨d, (hok 2 d).2 ⟨by decide, hd⟩, ?_, ?_⟩, ?_⟩
  · rw [hc.position_eq]
    decide
  · rw [hc.lineRest_eq]
    decide
  · rw [hc.char_eq (by decide)]
    decide
  · rw [hd.position_eq]
    decide
  · exact hd.onLastLine_iff.2 (by decide)
  · exact (herror 3 .outside).2 ⟨rfl, by decide, by decide, by decide⟩

end Highlight.Walk
