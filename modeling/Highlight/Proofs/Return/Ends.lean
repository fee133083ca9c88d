/-
The ends of a pattern in a text and in the text with a carriage return
behind it.

Every end in the text is one in the longer text, in the same order; what
comes in between lies behind the carriage return (`Node.retains_ends`). So
the longer text adds nothing to what a pattern matches unless one of its
ends lies behind the carriage return, and a pattern whose last character is
never one has none there (`Node.stays_ends`).

# What could tell the texts apart

Assertions of an end, and whatever takes a part of the pattern once and for
all, which may go for an end behind the carriage return and so lose those
before it. What stands in a look-ahead must not see the carriage return at
all.
-/
import Highlight.Proofs.Escape.Shy

namespace Highlight.Regex

open List (Forall₂)

-- ========================================================== vocabulary

/-- The same spot when a carriage return is put behind the text. -/
def Trails (s s' : Spot) : Prop :=
  s.before = s'.before ∧ s'.after = s.after ++ ['\r']

/-- Some text is still to come. -/
def Spot.isInner (s : Spot) : Bool := !s.after.isEmpty

/-- The text ends with a carriage return that is still to come. -/
def Spot.BeforeReturn (s : Spot) : Prop := ∃ w, s.after = w ++ ['\r']

/-- The ends in the text are those in the longer one that leave some of
it. -/
structure Retains (e : Spot → List Spot) : Prop where
  kept : ∀ s s', Trails s s' → Forall₂ Trails (e s) ((e s').filter (·.isInner))
  past : ∀ s, s.isInner = false → ∀ u ∈ e s, u.isInner = false

/-- No end lies behind the carriage return. -/
def Stays (e : Spot → List Spot) : Prop :=
  ∀ s, s.BeforeReturn → ∀ u ∈ e s, u.BeforeReturn

/-- What is said of ends holds of a whole where it holds of its parts. -/
structure Composes (P : (Spot → List Spot) → Prop) : Prop where
  here : P fun s => [s]
  flatMap {e d : Spot → List Spot} (h : P e) (h' : P d) :
    P fun s => (e s).flatMap d
  append {e d : Spot → List Spot} (h : P e) (h' : P d) :
    P fun s => e s ++ d s
  atPos {f : Nat → Spot → List Spot} (h : ∀ k, P (f k)) :
    P fun s => f s.pos s

/-- The assertion does not ask for an end. -/
def Assertion.isCalm : Assertion → Bool
  | .start | .lineStart | .boundary _ => true
  | _ => false

/-- The carriage return is no member of the set. -/
def CharSet.lacksReturn (set : CharSet) : Bool := !set.mem '\r'

namespace Node

/-- A carriage return behind the text takes no end away. -/
def isRobust : Node → Bool
  | .empty | .fail | .one _ => true
  | .assertion a => a.isCalm
  | .seq a b | .alt a b => a.isRobust && b.isRobust
  | .span a _ _ _ => a != .possessive
  | .loop _ _ _ n | .group _ n | .flagged n => n.isRobust
  | .look .ahead _ n => n.all (·.lacksReturn) (·.isCalm)
  | .look (.behind _) _ _ | .atomic _ | .reference _ _ _
  | .conditional _ _ _ => false

/-- The node has no ends where the text ends. -/
def needsText : Node → Bool
  | .look .ahead false n => 0 < n.width.least
  | n => 0 < n.width.least

/-- The last character of a match is no carriage return. -/
def isSealed : Node → Bool
  | .empty | .fail | .assertion _ | .look .ahead _ _ => true
  | .one set | .span _ _ _ set => set.lacksReturn
  | .seq a b => b.isSealed && (a.isSealed || b.needsText)
  | .alt a b => a.isSealed && b.isSealed
  | .loop _ _ _ n | .group _ n | .flagged n | .atomic n => n.isSealed
  | .look (.behind _) _ _ | .reference _ _ _ | .conditional _ _ _ => false

end Node

variable {s s' u : Spot} {set : CharSet} {e d : Spot → List Spot}

-- =============================================================== spots

namespace Trails

theorem pos_eq (h : Trails s s') : s.pos = s'.pos := by
  rw [s.pos_eq, s'.pos_eq, h.1]

/-- The longer text has one character more to come. -/
theorem left_eq (h : Trails s s') : s'.left = s.left + 1 := by
  rw [s.left_eq, s'.left_eq, h.2, List.length_append]
  rfl

/-- In the longer text something is always still to come. -/
theorem isInner (h : Trails s s') : s'.isInner = true := by
  unfold Spot.isInner
  rw [h.2]
  cases s.after <;> rfl

/-- The carriage return is no word character. -/
theorem right_eq (h : Trails s s') (ascii : Bool) :
    Spot.holds.right s ascii = Spot.holds.right s' ascii := by
  unfold Spot.holds.right
  rw [h.2]
  cases s.after with
  | nil => cases ascii <;> decide +kernel
  | cons c r => rfl

/-- An assertion that does not ask for an end cannot tell the texts apart.
-/
theorem holds_eq (h : Trails s s') {a : Assertion} (ha : a.isCalm) :
    s.holds a = s'.holds a := by
  have hleft : ∀ ascii,
      Spot.holds.left s ascii = Spot.holds.left s' ascii := by
    intro ascii
    unfold Spot.holds.left
    rw [h.1]
  cases a with
  | start => exact congrArg List.isEmpty h.1
  | lineStart =>
      show s.before.head?.all _ = s'.before.head?.all _
      rw [h.1]
  | boundary ascii =>
      have hinner := h.isInner
      unfold Spot.isInner at hinner
      show (!Spot.holds.blank s
          && Spot.holds.left s ascii != Spot.holds.right s ascii)
        = (!Spot.holds.blank s'
          && Spot.holds.left s' ascii != Spot.holds.right s' ascii)
      rw [← hleft, ← h.right_eq]
      unfold Spot.holds.blank
      rw [Bool.not_and, Bool.not_and, hinner, Bool.or_true, Bool.true_and]
      -- in the empty text no word character stands on either side
      cases hb : s.before with
      | cons c r => rfl
      | nil =>
          cases ha : s.after with
          | cons c r => rfl
          | nil =>
              unfold Spot.holds.left Spot.holds.right
              rw [hb, ha]
              rfl
  | _ => cases ha

/-- Both go on by the same character, or the longer text by its carriage
return. -/
theorem step_cases (h : Trails s s') (set : CharSet) :
    (∃ u u', s.step? set = some u ∧ s'.step? set = some u' ∧ Trails u u')
      ∨ (s.step? set = none ∧ s'.step? set = none)
      ∨ ∃ u', s.step? set = none ∧ s'.step? set = some u'
        ∧ u'.isInner = false ∧ set.mem '\r' = true := by
  obtain ⟨hb, ha⟩ := h
  cases hs : s.after with
  | nil =>
      rw [hs] at ha
      rw [Spot.step?_nil hs, Spot.step?_cons ha]
      cases hset : set.mem '\r' with
      | false => exact Or.inr (Or.inl ⟨rfl, rfl⟩)
      | true =>
          refine Or.inr (Or.inr ⟨_, rfl, rfl, ?_, rfl⟩)
          unfold Spot.isInner
          rw [Spot.after_skip_one ha]
          rfl
  | cons c r =>
      rw [hs] at ha
      rw [Spot.step?_cons hs, Spot.step?_cons ha]
      split
      · refine Or.inl ⟨_, _, rfl, rfl, ?_, ?_⟩
        · show (s.after.take 1).reverse ++ s.before
            = (s'.after.take 1).reverse ++ s'.before
          rw [hs, ha, hb]
          rfl
        · show s'.after.drop 1 = s.after.drop 1 ++ ['\r']
          rw [hs, ha]
          rfl
      · exact Or.inr (Or.inl ⟨rfl, rfl⟩)

end Trails

/-- Of spots that belong together the first ones lie at one place. -/
theorem head?_pos_of_trails {l l' : List Spot} (h : Forall₂ Trails l l') :
    l'.head?.map Spot.pos = l.head?.map Spot.pos := by
  cases h with
  | nil => rfl
  | cons hu _ => exact congrArg some hu.pos_eq.symm

/-- So the two spots are alike for all sets and assertions that know
nothing of the carriage return. -/
theorem likeness_trails : Likeness (·.lacksReturn) (·.isCalm) Trails where
  pos_eq h := h.pos_eq
  holds ha _ _ h := h.holds_eq ha
  step {set} hset s s' h := by
    rcases h.step_cases set with ⟨u, u', hu, hu', hr⟩ | ⟨hu, hu'⟩
      | ⟨u', -, -, -, hmem⟩
    · rw [hu, hu']
      exact .some hr
    · rw [hu, hu']
      exact .none
    · unfold CharSet.lacksReturn at hset
      rw [hmem] at hset
      cases hset

/-- Where the text ends there are only spots at its end. -/
theorem not_isInner_of_leads (hs : s.isInner = false) (h : s.Leads u) :
    u.isInner = false := by
  obtain ⟨w, ha, -⟩ := h
  unfold Spot.isInner at *
  rw [Bool.not_eq_false', List.isEmpty_iff] at hs ⊢
  rw [hs] at ha
  exact (List.append_eq_nil_iff.1 ha.symm).2

-- ================================================================ loops

namespace Composes

variable {P : (Spot → List Spot) → Prop}

/-- What holds of each iteration holds of a number of them. -/
theorem times (hP : Composes P) (h : P e) (h' : P d) (n : Nat) :
    P (timesEnds e d n) := by
  induction n with
  | zero => exact h'
  | succ n ih => exact hP.flatMap h ih

/-- The same of iterations that go as far as they can. -/
theorem greedy (hP : Composes P) (h : P e) (n : Nat) (last : Option Nat) :
    P (greedyEnds e n last) := by
  induction n generalizing last with
  | zero => exact hP.here
  | succ n ih =>
      refine hP.atPos (f := fun k s => if last = some k then [s]
        else (e s).flatMap (greedyEnds e n (some k)) ++ [s]) fun k => ?_
      split
      · exact hP.here
      · exact hP.append (hP.flatMap h (ih _)) hP.here

/-- The same of iterations that stop as soon as they can. -/
theorem lazy (hP : Composes P) (h : P e) (n : Nat) (last : Option Nat) :
    P (lazyEnds e n last) := by
  induction n generalizing last with
  | zero => exact hP.here
  | succ n ih =>
      refine hP.atPos (f := fun k s => s :: if last = some k then []
        else (e s).flatMap (lazyEnds e n (some k))) fun k => ?_
      split
      · exact hP.here
      · exact hP.append hP.here (hP.flatMap h (ih _))

end Composes

-- ============================================================ retaining

/-- What has no ends may be left out before they are looked for. -/
theorem flatMap_filter_of_nil {α β : Type} {p : α → Bool} {f : α → List β}
    {l : List α} (h : ∀ a ∈ l, p a = false → f a = []) :
    (l.filter p).flatMap f = l.flatMap f := by
  induction l with
  | nil => rfl
  | cons a l ih =>
      rw [List.forall_mem_cons] at h
      rw [List.flatMap_cons, ← ih h.2]
      cases ha : p a with
      | true => rw [List.filter_cons_of_pos ha, List.flatMap_cons]
      | false =>
          rw [List.filter_cons_of_neg (by simp [ha]), h.1 ha,
            List.nil_append]

namespace Retains

theorem filter_singleton (h : Trails s s') :
    [s'].filter (·.isInner) = [s'] :=
  List.filter_cons_of_pos h.isInner

/-- Staying where one is ends at corresponding spots. -/
theorem here : Retains fun s => [s] where
  kept s s' h := by
    rw [filter_singleton h]
    exact .cons h .nil
  past s hs u hu := by
    rw [List.mem_singleton.1 hu]
    exact hs

/-- No ends at all. -/
theorem nothing : Retains fun _ => [] where
  kept _ _ _ := .nil
  past _ _ _ hu := absurd hu List.not_mem_nil

/-- One search behind the other: an end behind the carriage return leads to
no end before it. -/
theorem flatMap (h : Retains e) (h' : Retains d) :
    Retains fun s => (e s).flatMap d where
  kept s s' hs := by
    have hpast : ∀ v ∈ e s', v.isInner = false →
        (d v).filter (·.isInner) = [] := by
      intro v _ hv
      rw [List.filter_eq_nil_iff]
      exact fun u hu => Bool.eq_false_iff.1 (h'.past v hv u hu)
    rw [List.filter_flatMap, ← flatMap_filter_of_nil hpast]
    exact List.rel_flatMap (h.kept s s' hs) fun u u' hu => h'.kept u u' hu
  past s hs u hu := by
    obtain ⟨v, hv, hu⟩ := List.mem_flatMap.1 hu
    exact h'.past v (h.past s hs v hv) u hu

/-- One search beside the other. -/
theorem append (h : Retains e) (h' : Retains d) :
    Retains fun s => e s ++ d s where
  kept s s' hs := by
    rw [List.filter_append]
    exact List.rel_append (h.kept s s' hs) (h'.kept s s' hs)
  past s hs u hu := by
    rcases List.mem_append.1 hu with hu | hu
    · exact h.past s hs u hu
    · exact h'.past s hs u hu

/-- So the ends of a whole are retained if those of its parts are. -/
theorem composes : Composes Retains where
  here := here
  flatMap := flatMap
  append := append
  atPos h := by
    constructor
    · intro s s' hs
      rw [← hs.pos_eq]
      exact (h s.pos).kept s s' hs
    · exact fun s hs => (h s.pos).past s hs

/-- A character of a set, which may be the carriage return itself. -/
theorem one (set : CharSet) : Retains (Node.one set).ends where
  kept s s' hs := by
    unfold Node.ends
    rcases hs.step_cases set with ⟨u, u', hu, hu', hr⟩ | ⟨hu, hu'⟩
      | ⟨u', hu, hu', hlast, -⟩
    · rw [hu, hu']
      exact here.kept u u' hr
    · rw [hu, hu']
      exact .nil
    · rw [hu, hu', Option.toList_some,
        List.filter_cons_of_neg (Bool.eq_false_iff.1 hlast)]
      exact .nil
  past s hs u hu :=
    not_isInner_of_leads hs (Spot.leads_of_step? (Option.mem_toList.1 hu))

/-- The longer text may be reached into further, by its carriage return. -/
theorem reach (set : CharSet) (n : Nat) (h : Trails s s') :
    ∃ l more, s'.reach set n = l ++ more ∧ Forall₂ Trails (s.reach set n) l
      ∧ ∀ u ∈ more, u.isInner = false := by
  induction n generalizing s s' with
  | zero => exact ⟨[s'], [], rfl, .cons h .nil, nofun⟩
  | succ n ih =>
      unfold Spot.reach
      rcases h.step_cases set with ⟨u, u', hu, hu', hr⟩ | ⟨hu, hu'⟩
        | ⟨u', hu, hu', hlast, -⟩
      · obtain ⟨l, more, heq, hl, hmore⟩ := ih hr
        rw [hu, hu']
        exact ⟨s' :: l, more, congrArg (s' :: ·) heq, .cons h hl, hmore⟩
      · rw [hu, hu']
        exact ⟨[s'], [], rfl, .cons h .nil, nofun⟩
      · rw [hu, hu']
        refine ⟨[s'], u'.reach set n, rfl, .cons h .nil, fun u hu => ?_⟩
        exact not_isInner_of_leads hlast (Spot.leads_of_mem_reach hu)

/-- Ends that correspond lie before the carriage return. -/
theorem forall_isInner {l l' : List Spot} (h : Forall₂ Trails l l') :
    ∀ u ∈ l', u.isInner = true := by
  induction h with
  | nil => exact nofun
  | cons h _ ih => exact List.forall_mem_cons.2 ⟨h.isInner, ih⟩

/-- Repeated characters, if all the ends are kept that there are. -/
theorem span {a : Appetite} (ha : a ≠ .possessive) (least : Nat)
    (most : Option Nat) (set : CharSet) :
    Retains (spanEnds a least most set) where
  kept s s' hs := by
    have hlong : s.reach set (most.getD s.left)
        = s.reach set (most.getD s'.left) := by
      cases most with
      | some n => rfl
      | none =>
          refine Spot.reach_eq_of_le (Nat.le_refl _) ?_
          rw [Option.getD_none, hs.left_eq]
          exact Nat.le_succ _
    obtain ⟨l, more, heq, hl, hmore⟩ := reach set (most.getD s'.left) hs
    have hinner := forall_isInner hl
    have hdrop : ((l ++ more).drop least).filter (·.isInner)
        = l.drop least := by
      rw [List.drop_append, List.filter_append,
        List.filter_eq_self.2 fun u hu => hinner u (List.mem_of_mem_drop hu),
        List.filter_eq_nil_iff.2 fun u hu =>
          Bool.eq_false_iff.1 (hmore u (List.mem_of_mem_drop hu)),
        List.append_nil]
    have hkept := List.forall₂_drop least hl
    unfold spanEnds
    rw [hlong, heq]
    cases a with
    | greedy =>
        dsimp only
        rw [List.filter_reverse, hdrop]
        exact List.rel_reverse hkept
    | lazy =>
        dsimp only
        rw [hdrop]
        exact hkept
    | possessive => exact absurd rfl ha
  past s hs u hu :=
    not_isInner_of_leads hs (Forward.span a least most set s u hu).1

/-- Iterations, if none of them is taken for good. -/
theorem loop {a : Appetite} (ha : a ≠ .possessive) (least : Nat)
    (most : Option Nat) {n : Node} (hn : n.isPlain) (h : Retains n.ends) :
    Retains (Node.loop a least most n).ends where
  kept s s' hs := by
    have hle : s.pos + s.left + 1 ≤ s'.pos + s'.left + 1 := by
      rw [hs.pos_eq, hs.left_eq]
      omega
    cases a with
    | greedy =>
        rw [(loop_ends_eq hn hle).1, (loop_ends_eq hn (Nat.le_refl _)).1]
        exact (composes.times h (composes.greedy h _ none) least).kept s s' hs
    | lazy =>
        rw [(loop_ends_eq hn hle).2, (loop_ends_eq hn (Nat.le_refl _)).2]
        exact (composes.times h (composes.lazy h _ none) least).kept s s' hs
    | possessive => exact absurd rfl ha
  past s hs u hu := by
    have hplain : (Node.loop a least most n).isPlain := by
      unfold Node.isPlain
      rw [hn, bne_iff_ne.2 ha]
      rfl
    exact not_isInner_of_leads hs (Node.forward_ends hplain s u hu).1

end Retains

/-- A look-ahead ends where it began, or nowhere. -/
theorem Node.ends_ahead (negated : Bool) (n : Node) (s : Spot) :
    (look .ahead negated n).ends s
      = if (n.ends s).isEmpty = negated then [s] else [] := by
  show (if s.pos < 0 then _ else if (n.ends (s.back 0)).isEmpty = negated
    then _ else _) = _
  rw [Spot.back_zero, if_neg (Nat.not_lt_zero _)]

/-- In the longer text a robust pattern has the same ends, but for those
behind the carriage return. -/
theorem Node.retains_ends {n : Node} (hp : n.isPlain) (hn : n.isRobust) :
    Retains n.ends := by
  induction n with
  | empty => exact .here
  | fail => exact .nothing
  | one set => exact .one set
  | assertion a =>
      constructor
      · intro s s' hs
        unfold ends
        rw [hs.holds_eq hn]
        split
        · exact Retains.here.kept s s' hs
        · exact .nil
      · intro s hs u hu
        unfold ends at hu
        split at hu
        · exact Retains.here.past s hs u hu
        · cases hu
  | seq a b iha ihb =>
      obtain ⟨ha, hb⟩ := Bool.and_eq_true _ _ ▸ hp
      obtain ⟨ha', hb'⟩ := Bool.and_eq_true _ _ ▸ hn
      exact (iha ha ha').flatMap (ihb hb hb')
  | alt a b iha ihb =>
      obtain ⟨ha, hb⟩ := Bool.and_eq_true _ _ ▸ hp
      obtain ⟨ha', hb'⟩ := Bool.and_eq_true _ _ ▸ hn
      exact (iha ha ha').append (ihb hb hb')
  | span a least most set => exact .span (bne_iff_ne.1 hn) least most set
  | loop a least most n ih =>
      obtain ⟨ha, hb⟩ := Bool.and_eq_true _ _ ▸ hp
      exact .loop (bne_iff_ne.1 ha) least most hb (ih hb hn)
  | group _ n ih => exact ih hp hn
  | flagged n ih => exact ih hp hn
  | look side negated n =>
      cases side with
      | behind w => cases hn
      | ahead =>
          constructor
          · intro s s' hs
            -- What is looked ahead at knows nothing of the carriage return,
            -- so it is found in both texts or in none.
            have hempty := forall₂_isEmpty
              (ends_alike (n := n) likeness_trails hp hn s s' hs)
            rw [ends_ahead, ends_ahead, hempty]
            split
            · exact Retains.here.kept s s' hs
            · exact .nil
          · intro s hs u hu
            have hplain : (look .ahead negated n).isPlain := hp
            exact not_isInner_of_leads hs
              (forward_ends hplain s u hu).1
  | atomic n => cases hn
  | reference _ _ _ => cases hp
  | conditional _ _ _ _ _ => cases hp

-- ============================================================== sealing

/-- On the way to the end of the text the carriage return is passed last. -/
theorem beforeReturn_or_end (hs : s.BeforeReturn) (h : s.Leads u) :
    u.BeforeReturn ∨ u.after = [] := by
  obtain ⟨w, hw⟩ := hs
  obtain ⟨v, hv, -⟩ := h
  rw [hw] at hv
  rcases List.eq_nil_or_concat u.after with hnil | ⟨r, c, hr⟩
  · exact Or.inr hnil
  · rw [hr, List.concat_eq_append, ← List.append_assoc] at hv
    obtain ⟨-, hc⟩ := List.append_inj' hv rfl
    exact Or.inl ⟨r, by rw [hr, List.concat_eq_append, ← hc]⟩

/-- A character that is not the carriage return leaves it ahead. -/
theorem Spot.BeforeReturn.step (hs : s.BeforeReturn) (hset : set.lacksReturn)
    (h : s.step? set = some u) : u.BeforeReturn := by
  obtain ⟨c, hc, ha, -⟩ := Spot.step?_eq_some_iff.1 h
  rcases beforeReturn_or_end hs (Spot.leads_of_step? h) with hu | hu
  · exact hu
  · obtain ⟨w, hw⟩ := hs
    rw [hu, hw] at ha
    have hlast : c = '\r' := by
      have := congrArg List.getLast? ha
      rw [List.getLast?_concat] at this
      exact (Option.some.inj this).symm
    unfold CharSet.lacksReturn at hset
    rw [← hlast, hc] at hset
    cases hset

namespace Stays

/-- Staying where one is stays before the carriage return. -/
theorem here : Stays fun s => [s] := by
  intro s hs u hu
  rw [List.mem_singleton.1 hu]
  exact hs

/-- So do two searches in a row. -/
theorem flatMap (h : Stays e) (h' : Stays d) :
    Stays fun s => (e s).flatMap d := by
  intro s hs u hu
  obtain ⟨v, hv, hu⟩ := List.mem_flatMap.1 hu
  exact h' v (h s hs v hv) u hu

/-- So do two searches side by side. -/
theorem append (h : Stays e) (h' : Stays d) : Stays fun s => e s ++ d s := by
  intro s hs u hu
  rcases List.mem_append.1 hu with hu | hu
  · exact h s hs u hu
  · exact h' s hs u hu

/-- So it holds of a whole if it holds of its parts. -/
theorem composes : Composes Stays where
  here := here
  flatMap := flatMap
  append := append
  atPos h s := h s.pos s

/-- Repeated characters that exclude the carriage return stop before it. -/
theorem reach (hset : set.lacksReturn) (n : Nat) : Stays (·.reach set n) := by
  induction n with
  | zero => exact here
  | succ n ih =>
      intro s hs
      show ∀ u ∈ s.reach set (n + 1), u.BeforeReturn
      unfold Spot.reach
      split
      · next v hv =>
        exact List.forall_mem_cons.2 ⟨hs, ih v (hs.step hset hv)⟩
      · exact here s hs

/-- They do so however many of them are asked for. -/
theorem span (a : Appetite) (least : Nat) (most : Option Nat)
    (hset : set.lacksReturn) : Stays (spanEnds a least most set) := by
  intro s hs u hu
  have hmem : u ∈ (s.reach set (most.getD s.left)).drop least := by
    cases a with
    | greedy => exact List.mem_reverse.1 hu
    | lazy => exact hu
    | possessive => exact List.mem_of_getLast? (Option.mem_toList.1 hu)
  exact reach hset _ s hs u (List.mem_of_mem_drop hmem)

/-- No iteration passes the carriage return, so all of them together do
not. -/
theorem loop {a : Appetite} (ha : a ≠ .possessive) (least : Nat)
    (most : Option Nat) {n : Node} (h : Stays n.ends) :
    Stays (Node.loop a least most n).ends := by
  intro s hs
  cases a with
  | greedy => exact composes.times h (composes.greedy h _ none) least s hs
  | lazy => exact composes.times h (composes.lazy h _ none) least s hs
  | possessive => exact absurd rfl ha

end Stays

/-- Where the text ends, a pattern that takes some has no ends. -/
theorem Node.ends_eq_nil_of_needsText {n : Node} (hp : n.isPlain)
    (hn : n.needsText) (hs : s.after = []) : n.ends s = [] := by
  have hwidth : ∀ {m : Node}, m.isPlain → 0 < m.width.least →
      m.ends s = [] := by
    intro m hm hw
    rw [List.eq_nil_iff_forall_not_mem]
    intro u hu
    obtain ⟨hl, hpos⟩ := forward_ends hm s u hu
    have htotal := hl.total
    rw [s.left_eq, hs, List.length_nil] at htotal
    omega
  unfold needsText at hn
  split at hn
  · next m =>
    have hnil := hwidth (m := m) hp (of_decide_eq_true hn)
    rw [ends_ahead, hnil]
    rfl
  · exact hwidth hp (of_decide_eq_true hn)

/-- A sealed pattern has no end behind the carriage return. -/
theorem Node.stays_ends {n : Node} (hp : n.isPlain) (hn : n.isSealed) :
    Stays n.ends := by
  induction n with
  | empty => exact .here
  | fail => exact fun _ _ _ hu => absurd hu List.not_mem_nil
  | one set =>
      intro s hs u hu
      exact hs.step hn (Option.mem_toList.1 hu)
  | assertion a =>
      intro s hs u hu
      unfold ends at hu
      split at hu
      · exact Stays.here s hs u hu
      · cases hu
  | seq a b iha ihb =>
      obtain ⟨ha, hb⟩ := Bool.and_eq_true _ _ ▸ hp
      obtain ⟨hb', hor⟩ := Bool.and_eq_true _ _ ▸ hn
      intro s hs u hu
      obtain ⟨v, hv, hu⟩ := List.mem_flatMap.1 hu
      have hbefore : v.BeforeReturn := by
        -- Either the first part stays before the carriage return, or the
        -- second one finds no text if it does not.
        rcases Bool.or_eq_true _ _ ▸ hor with ha' | hneeds
        · exact iha ha ha' s hs v hv
        · refine (beforeReturn_or_end hs
            (forward_ends ha s v hv).1).resolve_right fun hend => ?_
          rw [ends_eq_nil_of_needsText hb hneeds hend] at hu
          cases hu
      exact ihb hb hb' v hbefore u hu
  | alt a b iha ihb =>
      obtain ⟨ha, hb⟩ := Bool.and_eq_true _ _ ▸ hp
      obtain ⟨ha', hb'⟩ := Bool.and_eq_true _ _ ▸ hn
      exact (iha ha ha').append (ihb hb hb')
  | span a least most set => exact .span a least most hn
  | loop a least most n ih =>
      obtain ⟨ha, hb⟩ := Bool.and_eq_true _ _ ▸ hp
      exact .loop (bne_iff_ne.1 ha) least most (ih hb hn)
  | group _ n ih => exact ih hp hn
  | flagged n ih => exact ih hp hn
  | atomic n ih =>
      intro s hs u hu
      exact ih hp hn s hs u (List.mem_of_head? (Option.mem_toList.1 hu))
  | look side negated n =>
      cases side with
      | behind w => cases hn
      | ahead =>
          intro s hs u hu
          rw [ends_ahead] at hu
          split at hu
          · exact Stays.here s hs u hu
          · cases hu
  | reference _ _ _ => cases hp
  | conditional _ _ _ _ _ => cases hp

end Highlight.Regex
