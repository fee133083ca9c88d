/-
What is known when a row of checks has succeeded.

Readers and compilers go through steps of which each may fail. If the
whole succeeds, so did every step: of a sequence of two
(`exists_of_bind`), and for each member of a list that is gone through
(`forall₂_of_mapM`). If it fails, it stopped at the first member that
fails (`mapM_of_firstFault`).
-/
import Mathlib.Data.List.Forall2

namespace Highlight

open List (Forall₂)

-- ========================================================== vocabulary

/-- The member of this number has the fault, and none before it has. -/
structure FirstFault {α : Type} (Faulty : α → Prop) (l : List α) (i : Nat)
    (a : α) : Prop where
  member : l[i]? = some a
  faulty : Faulty a
  before : ∀ j b, j < i → l[j]? = some b → ¬ Faulty b

-- =========================================================== successes

/-- What a sequence of two steps gives, step by step. -/
theorem exists_of_bind {ε α β : Type} {m : Except ε α}
    {f : α → Except ε β} {b : β} (h : (m >>= f) = .ok b) :
    ∃ a, m = .ok a ∧ f a = .ok b := by
  cases m with
  | error e => cases h
  | ok a => exact ⟨a, rfl, h⟩

/-- What is left of a success is what it holds. -/
theorem eq_ok_of_toOption {ε α : Type} {m : Except ε α} {a : α}
    (h : m.toOption = some a) : m = .ok a := by
  cases m with
  | error e => cases h
  | ok b =>
      cases h
      rfl

theorem eq_ok_get {ε α : Type} {m : Except ε α} (h : m.toOption.isSome) :
    m = .ok (m.toOption.get h) :=
  eq_ok_of_toOption (Option.some_get h).symm

/-- A failure by another name was one before. -/
theorem mapError_eq_error_iff {ε ε' α : Type} {m : Except ε α} {f : ε → ε'}
    {e' : ε'} : m.mapError f = .error e' ↔ ∃ e, m = .error e ∧ f e = e' := by
  cases m with
  | error e => simp [Except.mapError]
  | ok a => simp [Except.mapError]

/-- A list is gone through when every member is. -/
theorem forall₂_of_mapM {ε α β : Type} {f : α → Except ε β} {l : List α}
    {l' : List β} (h : l.mapM f = .ok l') :
    Forall₂ (fun a b => f a = .ok b) l l' := by
  induction l generalizing l' with
  | nil =>
      cases h
      exact .nil
  | cons a l ih =>
      rw [List.mapM_cons] at h
      obtain ⟨b, hb, h⟩ := exists_of_bind h
      obtain ⟨bs, hbs, h⟩ := exists_of_bind h
      cases h
      exact .cons hb (ih hbs)

/-- If no member fails, the list is gone through. -/
theorem exists_mapM {ε α β : Type} {f : α → Except ε β} {l : List α}
    (h : ∀ a ∈ l, ∃ b, f a = .ok b) : ∃ l', l.mapM f = .ok l' := by
  induction l with
  | nil => exact ⟨[], rfl⟩
  | cons a l ih =>
      rw [List.forall_mem_cons] at h
      obtain ⟨b, hb⟩ := h.1
      obtain ⟨bs, hbs⟩ := ih h.2
      rw [List.mapM_cons, hb, hbs]
      exact ⟨b :: bs, rfl⟩

/-- Two steps for every member of a list are one step. -/
theorem forall₂_trans {α β γ : Type} {R : α → β → Prop} {S : β → γ → Prop}
    {T : α → γ → Prop} {l : List α} {l' : List β} {l'' : List γ}
    (h : Forall₂ R l l') (h' : Forall₂ S l' l'')
    (hT : ∀ a b c, R a b → S b c → T a c) : Forall₂ T l l'' := by
  induction h generalizing l'' with
  | nil =>
      cases h'
      exact .nil
  | cons hab _ ih =>
      cases h' with
      | cons hbc h' => exact .cons (hT _ _ _ hab hbc) (ih h')

/-- A member of the second list comes from one of the first. -/
theorem exists_of_mem_right {α β : Type} {R : α → β → Prop} {l : List α}
    {l' : List β} {b : β} (h : Forall₂ R l l') (hb : b ∈ l') :
    ∃ a ∈ l, R a b := by
  induction h with
  | nil => cases hb
  | cons hab _ ih =>
      rcases List.mem_cons.1 hb with rfl | hb
      · exact ⟨_, List.mem_cons_self, hab⟩
      · obtain ⟨a, ha, hab⟩ := ih hb
        exact ⟨a, List.mem_cons_of_mem _ ha, hab⟩

/-- A member of the first list leads to one of the second. -/
theorem exists_of_mem_left {α β : Type} {R : α → β → Prop} {l : List α}
    {l' : List β} {a : α} (h : Forall₂ R l l') (ha : a ∈ l) :
    ∃ b ∈ l', R a b :=
  exists_of_mem_right h.flip ha

-- ============================================================ failures

namespace FirstFault

variable {α : Type} {Faulty : α → Prop} {l : List α} {i : Nat} {a b : α}

theorem zero (h : Faulty a) : FirstFault Faulty (a :: l) 0 a :=
  ⟨rfl, h, fun _ _ hj => absurd hj (Nat.not_lt_zero _)⟩

theorem succ (hb : ¬ Faulty b) (h : FirstFault Faulty l i a) :
    FirstFault Faulty (b :: l) (i + 1) a := by
  refine ⟨h.member, h.faulty, fun j c hj hc => ?_⟩
  cases j with
  | zero =>
      cases hc
      exact hb
  | succ j => exact h.before j c (Nat.lt_of_succ_lt_succ hj) hc

/-- The first fault is the first member, or it comes behind it. -/
theorem cons_cases (h : FirstFault Faulty (b :: l) i a) :
    a = b ∨ ¬ Faulty b ∧ ∃ j, FirstFault Faulty l j a := by
  cases i with
  | zero => exact Or.inl (Option.some.inj h.member).symm
  | succ i =>
      refine Or.inr ⟨h.before 0 b (Nat.succ_pos i) rfl, i, h.member,
        h.faulty, fun j c hj hc => ?_⟩
      exact h.before (j + 1) c (Nat.succ_lt_succ hj) hc

/-- There is one first fault at most. -/
theorem unique {j : Nat} (h : FirstFault Faulty l i a)
    (h' : FirstFault Faulty l j b) : i = j ∧ a = b := by
  have hij : i = j := by
    rcases Nat.lt_trichotomy i j with hlt | heq | hlt
    · exact absurd h.faulty (h'.before i a hlt h.member)
    · exact heq
    · exact absurd h'.faulty (h.before j b hlt h'.member)
  subst hij
  exact ⟨rfl, Option.some.inj (h.member.symm.trans h'.member)⟩

/-- A list without a first fault has none. -/
theorem exists_of_not_forall (h : ¬ ∀ a ∈ l, ¬ Faulty a) :
    ∃ i a, FirstFault Faulty l i a := by
  induction l with
  | nil => exact absurd (fun _ h => absurd h List.not_mem_nil) h
  | cons b l ih =>
      by_cases hb : Faulty b
      · exact ⟨0, b, zero hb⟩
      · have hrest : ¬ ∀ a ∈ l, ¬ Faulty a :=
          fun hl => h (List.forall_mem_cons.2 ⟨hb, hl⟩)
        obtain ⟨i, a, hi⟩ := ih hrest
        exact ⟨i + 1, a, succ hb hi⟩

end FirstFault

/-- Going through a numbered list stops at the first member that fails. -/
theorem mapM_of_firstFault {ε α β : Type} {f : Nat → α → Except ε β}
    {Faulty : α → Prop} {l : List α} {first i : Nat} {a : α} {e : ε}
    (hok : ∀ i a, ¬ Faulty a → ∃ b, f i a = .ok b)
    (h : FirstFault Faulty l i a) (he : f (first + i) a = .error e) :
    (l.zipIdx first).mapM (fun (a, i) => f i a) = .error e := by
  induction l generalizing first i with
  | nil => exact absurd h.member nofun
  | cons b l ih =>
      rw [List.zipIdx_cons, List.mapM_cons]
      cases i with
      | zero =>
          cases h.member
          show (f first a >>= _) = _
          rw [show f first a = .error e from he]
          rfl
      | succ i =>
          have hb : ¬ Faulty b := h.before 0 b (Nat.succ_pos i) rfl
          obtain ⟨c, hc⟩ := hok first b hb
          have hrest : FirstFault Faulty l i a :=
            ⟨h.member, h.faulty, fun j d hj hd =>
              h.before (j + 1) d (Nat.succ_lt_succ hj) hd⟩
          have hfirst : first + (i + 1) = first + 1 + i := by omega
          rw [ih hrest (hfirst ▸ he)]
          show (f first b >>= _) = _
          rw [hc]
          rfl

end Highlight
