/-
Two texts in which a pattern behaves alike.

A relation between the spots of two texts is a likeness for some sets and
assertions if these cannot tell related spots apart and steps lead from
related spots to related ones (`Likeness`). A plain pattern made of such
sets and assertions then has related ends, in the same order
(`Node.ends_alike`).

# Turns

The number of optional turns of a loop depends on how long the text is,
and the two texts need not have the same length. Beyond the number of
places more turns change nothing (`greedyEnds_eq_of_lt`), so both loops may
be given the same number.
-/
import Highlight.Proofs.Regex.Width
import Mathlib.Data.List.Forall2

namespace Highlight.Regex

-- ========================================================== vocabulary

/-- All sets and assertions of the node pass a test, and it does not look
behind. -/
def Node.all (f : CharSet → Bool) (g : Assertion → Bool) : Node → Bool
  | .empty | .fail => true
  | .one set | .span _ _ _ set => f set
  | .assertion a => g a
  | .seq a b | .alt a b => a.all f g && b.all f g
  | .loop _ _ _ n | .group _ n | .flagged n | .atomic n
  | .look .ahead _ n => n.all f g
  | .look (.behind _) _ _ | .reference _ _ _ | .conditional _ _ _ => false

/-- Sets and assertions do not tell related spots apart. -/
structure Likeness (f : CharSet → Bool) (g : Assertion → Bool)
    (R : Spot → Spot → Prop) : Prop where
  pos_eq : ∀ {s s'}, R s s' → s.pos = s'.pos
  step : ∀ {set}, f set → ∀ {s s'}, R s s' →
    Option.Rel R (s.step? set) (s'.step? set)
  holds : ∀ {a}, g a → ∀ {s s'}, R s s' → s.holds a = s'.holds a

-- ================================================================ turns

variable {e e' : Spot → List Spot}

/-- Spots of a turn that took no text are the spot it began at. -/
theorem greedyEnds_at_last (n : Nat) (s : Spot) :
    greedyEnds e n (some s.pos) s = [s] := by
  cases n with
  | zero => rfl
  | succ n =>
      unfold greedyEnds
      rw [if_pos rfl]

/-- The same of turns that are tried as late as possible. -/
theorem lazyEnds_at_last (n : Nat) (s : Spot) :
    lazyEnds e n (some s.pos) s = [s] := by
  cases n with
  | zero => rfl
  | succ n =>
      unfold lazyEnds
      rw [if_pos rfl]

/-- More turns than there are places change nothing. -/
theorem greedyEnds_eq_of_lt (he : Forward 0 e) {m n : Nat} {s : Spot}
    (hm : s.left < m) (hn : s.left < n) (last : Option Nat) :
    greedyEnds e m last s = greedyEnds e n last s := by
  induction m generalizing n last s with
  | zero => exact absurd hm (Nat.not_lt_zero _)
  | succ m ih =>
      obtain ⟨n, rfl⟩ := Nat.exists_eq_succ_of_ne_zero (Nat.ne_of_gt
        (Nat.lt_of_le_of_lt (Nat.zero_le _) hn))
      unfold greedyEnds
      split
      · rfl
      · congr 1
        refine List.flatMap_congr fun u hu => ?_
        obtain ⟨hlead, -⟩ := he s u hu
        by_cases hpos : u.pos = s.pos
        · rw [hlead.eq_of_pos hpos, greedyEnds_at_last, greedyEnds_at_last]
        · have hle := hlead.pos_le
          have htotal := hlead.total
          exact ih (by omega) (by omega) _

/-- More turns than there are places change nothing here either. -/
theorem lazyEnds_eq_of_lt (he : Forward 0 e) {m n : Nat} {s : Spot}
    (hm : s.left < m) (hn : s.left < n) (last : Option Nat) :
    lazyEnds e m last s = lazyEnds e n last s := by
  induction m generalizing n last s with
  | zero => exact absurd hm (Nat.not_lt_zero _)
  | succ m ih =>
      obtain ⟨n, rfl⟩ := Nat.exists_eq_succ_of_ne_zero (Nat.ne_of_gt
        (Nat.lt_of_le_of_lt (Nat.zero_le _) hn))
      unfold lazyEnds
      congr 1
      split
      · rfl
      · refine List.flatMap_congr fun u hu => ?_
        obtain ⟨hlead, -⟩ := he s u hu
        by_cases hpos : u.pos = s.pos
        · rw [hlead.eq_of_pos hpos, lazyEnds_at_last, lazyEnds_at_last]
        · have hle := hlead.pos_le
          have htotal := hlead.total
          exact ih (by omega) (by omega) _

/-- The number of optional turns for a number of places. -/
def turnsOf (least : Nat) (most : Option Nat) (places : Nat) : Nat :=
  match most with
  | none => places
  | some most => min (most - least) places

/-- The number of turns depends on the length of the text alone. -/
theorem turns_eq (least : Nat) (most : Option Nat) (s : Spot) :
    Search.turns least most s = turnsOf least most (s.pos + s.left + 1) := by
  cases most <;> rfl

/-- More places than there are in the text change nothing either. -/
theorem turnsOf_cases (least : Nat) (most : Option Nat) {l places more : Nat}
    (hl : l < places) (hmore : places ≤ more) :
    turnsOf least most places = turnsOf least most more
      ∨ l < turnsOf least most places ∧ l < turnsOf least most more := by
  cases most with
  | none => exact Or.inr ⟨hl, Nat.lt_of_lt_of_le hl hmore⟩
  | some most =>
      unfold turnsOf
      dsimp only
      omega

/-- What follows a number of turns is only asked at spots ahead. -/
theorem timesEnds_congr {d d' : Spot → List Spot} (he : Forward 0 e)
    (n : Nat) {s : Spot} (h : ∀ u, s.Leads u → d u = d' u) :
    timesEnds e d n s = timesEnds e d' n s := by
  induction n generalizing s with
  | zero => exact h s (.refl s)
  | succ n ih =>
      refine List.flatMap_congr fun u hu => ?_
      exact ih fun v hv => h v ((he s u hu).1.trans hv)

/-- A loop may be given more places than there are. -/
theorem loop_ends_eq {n : Node} (hn : n.isPlain) {least : Nat}
    {most : Option Nat} {s : Spot} {places : Nat}
    (h : s.pos + s.left + 1 ≤ places) :
    (Node.loop .greedy least most n).ends s
        = timesEnds n.ends
          (greedyEnds n.ends (turnsOf least most places) none) least s
      ∧ (Node.loop .lazy least most n).ends s
        = timesEnds n.ends
          (lazyEnds n.ends (turnsOf least most places) none) least s := by
  have he := (Node.forward_ends hn).mono (Nat.zero_le _)
  have hturns : ∀ u, s.Leads u → _ := fun u hu =>
    have htotal := hu.total
    turnsOf_cases least most (l := u.left) (by omega) h
  unfold Node.ends
  rw [turns_eq]
  constructor
  · refine timesEnds_congr he least fun u hu => ?_
    rcases hturns u hu with heq | ⟨hlt, hlt'⟩
    · rw [heq]
    · exact greedyEnds_eq_of_lt he hlt hlt' none
  · refine timesEnds_congr he least fun u hu => ?_
    rcases hturns u hu with heq | ⟨hlt, hlt'⟩
    · rw [heq]
    · exact lazyEnds_eq_of_lt he hlt hlt' none

-- ============================================================== lockstep

variable {f : CharSet → Bool} {g : Assertion → Bool}
variable {R : Spot → Spot → Prop}

open List (Forall₂)

/-- From related spots the ends are related. -/
def Alike (R : Spot → Spot → Prop) (e e' : Spot → List Spot) : Prop :=
  ∀ s s', R s s' → Forall₂ R (e s) (e' s')

namespace Alike

/-- One search behind the other. -/
theorem flatMap {d d' : Spot → List Spot} (h : Alike R e e')
    (h' : Alike R d d') :
    Alike R (fun s => (e s).flatMap d) fun s => (e' s).flatMap d' :=
  fun s s' hs => List.rel_flatMap (h s s' hs) fun u u' hu => h' u u' hu

/-- A number of turns and what follows them. -/
theorem times {d d' : Spot → List Spot} (h : Alike R e e')
    (h' : Alike R d d') (n : Nat) :
    Alike R (timesEnds e d n) (timesEnds e' d' n) := by
  induction n with
  | zero => exact h'
  | succ n ih => exact h.flatMap ih

/-- As many turns as succeed. They stop at the same places, since positions
agree. -/
theorem greedy (hpos : ∀ {s s'}, R s s' → s.pos = s'.pos)
    (h : Alike R e e') (n : Nat) (last : Option Nat) :
    Alike R (greedyEnds e n last) (greedyEnds e' n last) := by
  induction n generalizing last with
  | zero => exact fun s s' hs => .cons hs .nil
  | succ n ih =>
      intro s s' hs
      unfold greedyEnds
      rw [← hpos hs]
      split
      · exact .cons hs .nil
      · exact List.rel_append (h.flatMap (ih _) s s' hs) (.cons hs .nil)

/-- As few turns as will do. -/
theorem lazy (hpos : ∀ {s s'}, R s s' → s.pos = s'.pos)
    (h : Alike R e e') (n : Nat) (last : Option Nat) :
    Alike R (lazyEnds e n last) (lazyEnds e' n last) := by
  induction n generalizing last with
  | zero => exact fun s s' hs => .cons hs .nil
  | succ n ih =>
      intro s s' hs
      unfold lazyEnds
      rw [← hpos hs]
      refine .cons hs ?_
      split
      · exact .nil
      · exact h.flatMap (ih _) s s' hs

end Alike

/-- First ends correspond if all do. -/
theorem forall₂_head? {l l' : List Spot} (h : Forall₂ R l l') :
    Forall₂ R l.head?.toList l'.head?.toList := by
  cases h with
  | nil => exact .nil
  | cons h _ => exact .cons h .nil

/-- There are ends on both sides or on none. -/
theorem forall₂_isEmpty {l l' : List Spot} (h : Forall₂ R l l') :
    l.isEmpty = l'.isEmpty := by
  cases h <;> rfl

namespace Likeness

/-- Related spots step together. -/
theorem step_cases (h : Likeness f g R) {set : CharSet} (hset : f set)
    {s s' : Spot} (hs : R s s') :
    (s.step? set = none ∧ s'.step? set = none)
      ∨ ∃ u u', s.step? set = some u ∧ s'.step? set = some u' ∧ R u u' := by
  have hstep := h.step hset hs
  cases hu : s.step? set with
  | none =>
      rw [hu] at hstep
      cases hu' : s'.step? set with
      | none => exact Or.inl ⟨rfl, rfl⟩
      | some u' =>
          rw [hu'] at hstep
          cases hstep
  | some u =>
      rw [hu] at hstep
      cases hu' : s'.step? set with
      | none =>
          rw [hu'] at hstep
          cases hstep
      | some u' =>
          rw [hu'] at hstep
          cases hstep with
          | some hr => exact Or.inr ⟨u, u', rfl, rfl, hr⟩

/-- A set that cannot tell the spots apart takes a character on both sides.
-/
theorem one (h : Likeness f g R) {set : CharSet} (hset : f set) :
    Alike R (Node.one set).ends (Node.one set).ends := by
  intro s s' hs
  unfold Node.ends
  rcases h.step_cases hset hs with ⟨hu, hu'⟩ | ⟨u, u', hu, hu', hr⟩
  · rw [hu, hu']
    exact .nil
  · rw [hu, hu']
    exact .cons hr .nil

/-- It does so as often. -/
theorem reach (h : Likeness f g R) {set : CharSet} (hset : f set) (n : Nat)
    {s s' : Spot} (hs : R s s') :
    Forall₂ R (s.reach set n) (s'.reach set n) := by
  induction n generalizing s s' with
  | zero => exact .cons hs .nil
  | succ n ih =>
      unfold Spot.reach
      rcases h.step_cases hset hs with ⟨hu, hu'⟩ | ⟨u, u', hu, hu', hr⟩
      · rw [hu, hu']
        exact .cons hs .nil
      · rw [hu, hu']
        exact .cons hs (ih hr)

/-- So repeated characters end alike. -/
theorem span (h : Likeness f g R) (a : Appetite) (least : Nat)
    (most : Option Nat) {set : CharSet} (hset : f set) :
    Alike R (spanEnds a least most set) (spanEnds a least most set) := by
  intro s s' hs
  have hreach : Forall₂ R
      ((s.reach set (most.getD s.left)).drop least)
      ((s'.reach set (most.getD s'.left)).drop least) := by
    refine List.forall₂_drop least ?_
    cases most with
    | some n => exact h.reach hset n hs
    | none =>
        have hr := h.reach hset (max s.left s'.left) hs
        rw [Spot.reach_eq_of_le (Nat.le_max_left _ _) (Nat.le_refl s.left),
          Spot.reach_eq_of_le (Nat.le_max_right _ _)
            (Nat.le_refl s'.left)] at hr
        exact hr
  unfold spanEnds
  cases a with
  | greedy => exact List.rel_reverse hreach
  | lazy => exact hreach
  | possessive =>
      have hlast := forall₂_head? (List.rel_reverse hreach)
      rw [List.head?_reverse, List.head?_reverse] at hlast
      exact hlast

/-- Turns may be counted by the longer text on both sides. -/
theorem loop (h : Likeness f g R) {a : Appetite} (ha : a ≠ .possessive)
    (least : Nat) (most : Option Nat) {n : Node} (hn : n.isPlain)
    (hbody : Alike R n.ends n.ends) :
    Alike R (Node.loop a least most n).ends
      (Node.loop a least most n).ends := by
  intro s s' hs
  -- one number of turns that is enough at both spots
  have hle := Nat.le_max_left (s.pos + s.left + 1) (s'.pos + s'.left + 1)
  have hle' := Nat.le_max_right (s.pos + s.left + 1) (s'.pos + s'.left + 1)
  cases a with
  | greedy =>
      rw [(loop_ends_eq hn hle).1, (loop_ends_eq hn hle').1]
      exact hbody.times (hbody.greedy h.pos_eq _ none) least s s' hs
  | lazy =>
      rw [(loop_ends_eq hn hle).2, (loop_ends_eq hn hle').2]
      exact hbody.times (hbody.lazy h.pos_eq _ none) least s s' hs
  | possessive => exact absurd rfl ha

end Likeness

/-- A plain pattern cannot tell related spots apart. -/
theorem Node.ends_alike {n : Node} (h : Likeness f g R) (hp : n.isPlain)
    (hn : n.all f g) : Alike R n.ends n.ends := by
  induction n with
  | empty => exact fun s s' hs => .cons hs .nil
  | fail => exact fun s s' hs => .nil
  | one set => exact h.one hn
  | assertion a =>
      intro s s' hs
      unfold ends
      rw [h.holds hn hs]
      split
      · exact .cons hs .nil
      · exact .nil
  | seq a b iha ihb =>
      obtain ⟨ha, hb⟩ := Bool.and_eq_true _ _ ▸ hp
      obtain ⟨ha', hb'⟩ := Bool.and_eq_true _ _ ▸ hn
      exact (iha ha ha').flatMap (ihb hb hb')
  | alt a b iha ihb =>
      obtain ⟨ha, hb⟩ := Bool.and_eq_true _ _ ▸ hp
      obtain ⟨ha', hb'⟩ := Bool.and_eq_true _ _ ▸ hn
      exact fun s s' hs =>
        List.rel_append (iha ha ha' s s' hs) (ihb hb hb' s s' hs)
  | span a least most set => exact h.span a least most hn
  | loop a least most n ih =>
      obtain ⟨ha, hb⟩ := Bool.and_eq_true _ _ ▸ hp
      exact h.loop (bne_iff_ne.1 ha) least most hb (ih hb hn)
  | group _ n ih => exact ih hp hn
  | flagged n ih => exact ih hp hn
  | atomic n ih => exact fun s s' hs => forall₂_head? (ih hp hn s s' hs)
  | look side negated n ih =>
      cases side with
      | ahead =>
          intro s s' hs
          -- What is looked for is found at both spots or at none.
          have hempty := forall₂_isEmpty (ih hp hn s s' hs)
          unfold ends Side.distance
          rw [Spot.back_zero, Spot.back_zero, hempty,
            if_neg (Nat.not_lt_zero _), if_neg (Nat.not_lt_zero _)]
          split
          · exact .cons hs .nil
          · exact .nil
      | behind w => cases hn
  | reference _ _ _ => cases hp
  | conditional _ _ _ _ _ => cases hp

end Highlight.Regex
