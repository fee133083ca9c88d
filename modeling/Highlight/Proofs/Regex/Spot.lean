/-
Spots and the steps between them.

A spot is no more than its two halves of the text (`Spot.eq_of_halves`).
Steps move one character from the right half to the left one, so all spots
that are reached from one another lie in the same text, and the place
grows (`Spot.Leads`).
-/
import Highlight.Regex.Pattern
import Mathlib.Data.List.Basic

namespace Highlight.Regex.Spot

variable {s t u : Spot} {set : CharSet}

-- ========================================================== vocabulary

/-- The second spot lies in the same text, not before the first. -/
def Leads (s t : Spot) : Prop :=
  ∃ w, s.after = w ++ t.after ∧ t.before = w.reverse ++ s.before

-- ================================================================ steps

/-- A spot is its two sides, and nothing else. -/
theorem eq_of_halves (hb : s.before = t.before) (ha : s.after = t.after) :
    s = t := by
  obtain ⟨b, a, p, l, hp, hl⟩ := s
  obtain ⟨b', a', p', l', hp', hl'⟩ := t
  cases hb
  cases ha
  cases hp
  cases hl
  cases hp'
  cases hl'
  rfl

/-- The character that is next moves from one side to the other. -/
theorem next?_eq_some_iff {c : Char} :
    s.next? = some (c, t)
      ↔ s.after = c :: t.after ∧ t.before = c :: s.before := by
  constructor
  · intro h
    unfold next? at h
    split at h
    · cases h
    · next ha =>
      cases h
      exact ⟨ha, rfl⟩
  · rintro ⟨ha, hb⟩
    unfold next?
    split
    · next h =>
      rw [h] at ha
      cases ha
    · next d r h =>
      rw [h] at ha
      cases ha
      congr 2
      exact eq_of_halves hb.symm rfl

/-- Only at the end of a text is there no next character. -/
theorem next?_eq_none_iff : s.next? = none ↔ s.after = [] := by
  unfold next?
  split
  · next h => simp [h]
  · next h => simp [h]

/-- A step takes the next character if the set has it. -/
theorem step?_eq_some_iff :
    s.step? set = some t
      ↔ ∃ c, set.mem c = true ∧ s.after = c :: t.after
        ∧ t.before = c :: s.before := by
  unfold step?
  constructor
  · intro h
    split at h
    · next c u hn =>
      split at h
      · next hc =>
        cases h
        exact ⟨c, hc, next?_eq_some_iff.1 hn⟩
      · cases h
    · cases h
  · rintro ⟨c, hc, h⟩
    rw [next?_eq_some_iff.2 h]
    exact if_pos hc

/-- A spot is barred just where no step is possible. -/
theorem step?_eq_none_iff :
    s.step? set = none ↔ s.isBarred set = true := by
  unfold step? isBarred
  cases hn : s.next? with
  | none =>
      rw [next?_eq_none_iff.1 hn]
      simp
  | some n =>
      obtain ⟨c, t⟩ := n
      rw [(next?_eq_some_iff.1 hn).1]
      cases hc : set.mem c <;> simp [hc]

theorem back_zero (s : Spot) : s.back 0 = s :=
  eq_of_halves rfl rfl

-- =============================================================== leading

theorem Leads.refl (s : Spot) : s.Leads s := ⟨[], rfl, rfl⟩

/-- What can be reached in two stretches can be reached in one. -/
theorem Leads.trans (h : s.Leads t) (h' : t.Leads u) : s.Leads u := by
  obtain ⟨v, ha, hb⟩ := h
  obtain ⟨w, ha', hb'⟩ := h'
  refine ⟨v ++ w, ?_, ?_⟩
  · rw [ha, ha', List.append_assoc]
  · rw [hb', hb, List.reverse_append, List.append_assoc]

/-- A step leads forward, by one character. -/
theorem leads_of_step? (h : s.step? set = some t) : s.Leads t := by
  obtain ⟨c, -, ha, hb⟩ := step?_eq_some_iff.1 h
  exact ⟨[c], ha, hb⟩

theorem pos_of_step? (h : s.step? set = some t) : t.pos = s.pos + 1 := by
  obtain ⟨c, -, -, hb⟩ := step?_eq_some_iff.1 h
  rw [t.pos_eq, hb, List.length_cons, ← s.pos_eq]

/-- No spot further on has an earlier position. -/
theorem Leads.pos_le (h : s.Leads t) : s.pos ≤ t.pos := by
  obtain ⟨w, -, hb⟩ := h
  rw [s.pos_eq, t.pos_eq, hb, List.length_append]
  exact Nat.le_add_left _ _

/-- What is passed is no longer left, so the sum stays what it is. -/
theorem Leads.total (h : s.Leads t) : s.pos + s.left = t.pos + t.left := by
  obtain ⟨w, ha, hb⟩ := h
  rw [s.pos_eq, t.pos_eq, s.left_eq, t.left_eq, ha, hb]
  simp only [List.length_append, List.length_reverse]
  omega

/-- Two spots of one text at the same position are the same. -/
theorem Leads.eq_of_pos (h : s.Leads t) (hp : t.pos = s.pos) : t = s := by
  obtain ⟨w, ha, hb⟩ := h
  rw [s.pos_eq, t.pos_eq, hb, List.length_append] at hp
  have hw : w = [] := by
    rw [← List.length_eq_zero_iff, ← List.length_reverse]
    omega
  subst hw
  exact eq_of_halves hb ha.symm

-- =============================================================== reaches

/-- A reach begins with the spot itself, also when nothing is taken. -/
theorem reach_ne_nil (n : Nat) : s.reach set n ≠ [] := by
  cases n with
  | zero => exact List.cons_ne_nil _ _
  | succ n =>
      unfold reach
      split
      · exact List.cons_ne_nil _ _
      · exact List.cons_ne_nil _ _

theorem getLast?_reach (s : Spot) (set : CharSet) (n : Nat) :
    (s.reach set n).getLast? = some ((s.reach set n).getLastD s) := by
  rw [List.getLastD_eq_getLast?,
    List.getLast?_eq_some_getLast (reach_ne_nil n)]
  rfl

/-- All spots of a reach lie ahead. -/
theorem leads_of_mem_reach {n : Nat} (h : t ∈ s.reach set n) :
    s.Leads t := by
  induction n generalizing s with
  | zero =>
      rw [List.mem_singleton.1 h]
      exact .refl s
  | succ n ih =>
      unfold reach at h
      split at h
      · next u hu =>
        rcases List.mem_cons.1 h with rfl | h
        · exact .refl _
        · exact (leads_of_step? hu).trans (ih h)
      · rw [List.mem_singleton.1 h]
        exact .refl s

/-- The spots lie one character apart. -/
theorem pos_of_getElem?_reach {n i : Nat} (h : (s.reach set n)[i]? = some t) :
    t.pos = s.pos + i := by
  induction n generalizing s i with
  | zero =>
      cases i with
      | zero =>
          cases h
          rfl
      | succ i => cases h
  | succ n ih =>
      unfold reach at h
      split at h
      · next u hu =>
        cases i with
        | zero =>
            cases h
            rfl
        | succ i =>
            rw [ih h, pos_of_step? hu]
            omega
      · cases i with
        | zero =>
            cases h
            rfl
        | succ i => cases h

/-- A reach is limited by its count and by the text that is left. -/
theorem length_reach_le (s : Spot) (set : CharSet) (n : Nat) :
    (s.reach set n).length ≤ n + 1 ∧ (s.reach set n).length ≤ s.left + 1 := by
  induction n generalizing s with
  | zero => exact ⟨Nat.le_refl 1, Nat.le_add_left 1 _⟩
  | succ n ih =>
      unfold reach
      split
      · next u hu =>
        have hp := pos_of_step? hu
        have ht := (leads_of_step? hu).total
        have := ih (s := u)
        rw [List.length_cons]
        omega
      · rw [List.length_singleton]
        omega

/-- At the end of the text nothing can be taken. -/
theorem reach_of_left (n : Nat) (h : s.left = 0) : s.reach set n = [s] := by
  have hnil : s.after = [] := by
    rw [← List.length_eq_zero_iff, ← s.left_eq]
    exact h
  have hstep : s.step? set = none := by
    rw [step?_eq_none_iff]
    simp [isBarred, hnil]
  cases n with
  | zero => rfl
  | succ n =>
      unfold reach
      rw [hstep]

/-- More room than there is text changes nothing. -/
theorem reach_eq_of_le {m n : Nat} (hm : s.left ≤ m) (hn : s.left ≤ n) :
    s.reach set m = s.reach set n := by
  induction m generalizing s n with
  | zero =>
      have h := Nat.le_zero.1 hm
      rw [reach_of_left _ h, reach_of_left _ h]
  | succ m ih =>
      cases n with
      | zero =>
          have h := Nat.le_zero.1 hn
          rw [reach_of_left _ h, reach_of_left _ h]
      | succ n =>
          unfold reach
          split
          · next u hu =>
            have hp := pos_of_step? hu
            have ht := (leads_of_step? hu).total
            rw [ih (s := u) (n := n) (by omega) (by omega)]
          · rfl

/-- The same holds for a bound that is cut back to what there is. -/
theorem reach_min_left (n : Nat) :
    s.reach set (min n s.left) = s.reach set n := by
  rcases Nat.le_total n s.left with h | h
  · rw [Nat.min_eq_left h]
  · rw [Nat.min_eq_right h]
    exact reach_eq_of_le (Nat.le_refl _) h

/-- Behind the first characters a reach goes on as one of its own. -/
theorem drop_reach (n m : Nat) :
    (s.reach set (n + m)).drop n
      = ((s.reach set n)[n]?.map (reach set m)).getD [] := by
  induction n generalizing s with
  | zero =>
      rw [Nat.zero_add]
      rfl
  | succ n ih =>
      rw [Nat.add_right_comm]
      unfold reach
      cases s.step? set with
      | none => simp
      | some t => exact ih

end Highlight.Regex.Spot
