/-
Patterns whose matches never have crossed groups.

A failed attempt may leave marks behind. Outside iterations a choice takes
back only the marks that are new, so an old mark can be overwritten by an
attempt that fails; inside them it takes back all. What makes this harmless
is that groups are numbered in the order in which they begin: where a
choice is made outside iterations, no group to come has a mark yet.

# The invariant

Runs are followed by what they do to the marks below a level, and by a
bound on how many marks there are (`Search.Tame`). Outside iterations both
are the number of marks of the groups passed so far; inside an iteration
the level stays that of its beginning and the bound that of its end. The
marks below the level survive a failure, but for the ends of groups that
are still open: those are set again before a match is found.
-/
import Highlight.Proofs.Regex.Spot

namespace Highlight.Regex

-- ========================================================== vocabulary

/-- Two marks for each group, its start and its end, by the number of the
group. -/
abbrev Marks := List (Option Nat)

/-- The mark of an index, if it is set. -/
def markAt (m : Marks) (i : Nat) : Option Nat := m[i]?.join

/-- The groups of the node are numbered in order from the first one after
the given number; the result is the number of the last one. -/
def Node.numbered (g : Nat) : Node → Option Nat
  | .empty | .fail | .one _ | .assertion _ | .span _ _ _ _
  | .look _ _ (.one _) => some g
  | .seq a b | .alt a b => (a.numbered g).bind fun i => b.numbered i
  | .loop a _ _ n => if a = .possessive then none else n.numbered g
  | .group i n => if i = g + 1 then n.numbered (g + 1) else none
  | .flagged n => n.numbered g
  | .atomic _ | .look _ _ _ | .reference _ _ _ | .conditional _ _ _ => none

/-- An index that is not the end of an open group. -/
def Settled (opened : List Nat) (i : Nat) : Prop :=
  ∀ g ∈ opened, i ≠ 2 * g + 1

/-- The same marks below a level, apart from the ends of open groups. -/
def Agree (level : Nat) (opened : List Nat) (m m' : Marks) : Prop :=
  ∀ i < level, Settled opened i → markAt m i = markAt m' i

/-- Marks as they are while a match can still come of them. -/
structure Calm (bound : Nat) (opened : List Nat) (pos : Nat) (m : Marks) :
    Prop where
  length_le : m.length ≤ bound
  closed : ∀ g ∉ opened, ∀ start stop, markAt m (2 * g) = some start →
    markAt m (2 * g + 1) = some stop → start ≤ stop
  opened_le : ∀ g ∈ opened, ∀ start, markAt m (2 * g) = some start →
    start ≤ pos

/-- A match without crossed groups, or a failure that leaves the marks
below the level alone. -/
def Good (level : Nat) (opened : List Nat) (m : Marks) (o : Outcome) :
    Prop :=
  if o.found then o.trail.crossing? = none
  else Agree level opened m o.trail.marks

/-- What follows a node does well with calm marks. -/
def Tail.Tame (k : Tail) (level bound : Nat) (opened : List Nat) : Prop :=
  ∀ s t, Calm bound opened s.pos t.marks →
    Good level opened t.marks (k.go s t)

/-- A search does well with calm marks if what follows does. The first
level and bound are those before it, the others those behind it. -/
def Search.Tame (f : Search) (level bound level' bound' : Nat) : Prop :=
  ∀ opened s t k, Calm bound opened s.pos t.marks →
    k.Tame level' bound' opened → Good level opened t.marks (f s t k)

-- =============================================================== marks

/-- Setting a mark changes that mark alone; marks in between stay unset. -/
theorem markAt_mark (t : Trail) (i pos j : Nat) :
    markAt (t.mark i pos).marks j
      = if j = i then some pos else markAt t.marks j := by
  unfold Trail.mark markAt
  split
  · next hi =>
    rw [List.getElem?_set]
    by_cases hj : j = i
    · subst hj
      simp [hi]
    · rw [if_neg (fun h => hj h.symm), if_neg hj]
  · next hi =>
    dsimp only
    by_cases hj : j = i
    · subst hj
      rw [if_pos rfl, List.getElem?_append_right (by simp; omega)]
      have : j - (t.marks ++ List.replicate (j - t.marks.length) none).length
          = 0 := by simp; omega
      rw [this]
      rfl
    · rw [if_neg hj]
      rcases Nat.lt_or_ge j t.marks.length with hlt | hge
      · rw [List.append_assoc, List.getElem?_append_left hlt]
      · rw [List.getElem?_eq_none hge]
        rcases Nat.lt_or_ge j i with hji | hij
        · rw [List.getElem?_append_left (by simp; omega),
            List.getElem?_append_right hge, List.getElem?_replicate]
          split <;> rfl
        · rw [List.getElem?_eq_none (by simp; omega)]

/-- There are as many marks as the last one that was set asks for. -/
theorem length_mark (t : Trail) (i pos : Nat) :
    (t.mark i pos).marks.length = max t.marks.length (i + 1) := by
  unfold Trail.mark
  split
  · simp
    omega
  · simp
    omega

/-- Marks that are cut off are unset. -/
theorem markAt_take (m : Marks) (n i : Nat) :
    markAt (m.take n) i = if i < n then markAt m i else none := by
  unfold markAt
  rw [List.getElem?_take]
  split <;> rfl

theorem markAt_eq_none {m : Marks} {i : Nat} (h : m.length ≤ i) :
    markAt m i = none := by
  unfold markAt
  rw [List.getElem?_eq_none h]
  rfl

/-- Two marks on: the next group. -/
theorem crossing?_go_eq_none {m : Marks} (n : Nat)
    (h : ∀ g start stop, markAt m (2 * g) = some start →
      markAt m (2 * g + 1) = some stop → start ≤ stop) :
    Trail.crossing?.go n m = none := by
  match m with
  | [] => rfl
  | [none] => rfl
  | [some _] => rfl
  | none :: _ :: more =>
      exact crossing?_go_eq_none (n + 1) (m := more) fun g => h (g + 1)
  | some _ :: none :: more =>
      exact crossing?_go_eq_none (n + 1) (m := more) fun g => h (g + 1)
  | some start :: some stop :: more =>
      have hle := h 0 start stop rfl rfl
      unfold Trail.crossing?.go
      rw [if_neg (Nat.not_lt.2 hle)]
      exact crossing?_go_eq_none (n + 1) (m := more) fun g => h (g + 1)

-- =========================================================== invariant

variable {level bound level' bound' : Nat} {opened : List Nat}
variable {m m' : Marks} {s : Spot} {t : Trail} {k : Tail} {o : Outcome}

/-- Marks that survive two stretches survive both together. -/
theorem Agree.trans {n : Marks} (h : Agree level opened m m')
    (h' : Agree level opened m' n) : Agree level opened m n :=
  fun i hi hs => (h i hi hs).trans (h' i hi hs)

/-- The start of a group is settled as soon as it is entered. -/
theorem settled_start (opened : List Nat) (g : Nat) :
    Settled opened (2 * g) := fun _ _ => by omega

/-- The end of a group is settled when the group is closed. -/
theorem settled_stop {g : Nat} (h : g ∉ opened) :
    Settled opened (2 * g + 1) := by
  intro i hi he
  have hgi : g = i := by omega
  exact h (hgi ▸ hi)

namespace Calm

/-- Marks stay calm further on in the text and under a larger bound. -/
theorem mono {pos pos' : Nat} (h : Calm bound opened pos m)
    (hb : bound ≤ bound') (hp : pos ≤ pos') : Calm bound' opened pos' m where
  length_le := Nat.le_trans h.length_le hb
  closed := h.closed
  opened_le g hg start hm := Nat.le_trans (h.opened_le g hg start hm) hp

/-- Calm is what can be said of the marks that are settled. -/
theorem of_eq {pos : Nat} (h : Calm bound opened pos m)
    (hm : ∀ i, Settled opened i → markAt m i = markAt m' i)
    (hl : m'.length ≤ bound) : Calm bound opened pos m' where
  length_le := hl
  closed g hg start stop hstart hstop := by
    rw [← hm _ (settled_start opened g)] at hstart
    rw [← hm _ (settled_stop hg)] at hstop
    exact h.closed g hg start stop hstart hstop
  opened_le g hg start hstart := by
    rw [← hm _ (settled_start opened g)] at hstart
    exact h.opened_le g hg start hstart

end Calm

/-- What a choice takes back is enough: the settled marks are those of the
moment of the choice. -/
theorem markAt_restored {nested : Bool} {u : Trail}
    (hn : nested = true ∨ m.length ≤ level)
    (h : Agree level opened m u.marks) {i : Nat} (hi : Settled opened i) :
    markAt m i = markAt (u.restored nested m).marks i := by
  cases nested with
  | true => rfl
  | false =>
      have hle := hn.resolve_left (by decide)
      show _ = markAt (u.marks.take m.length) i
      rw [markAt_take]
      split
      · next hlt => exact h i (Nat.lt_of_lt_of_le hlt hle) hi
      · next hge => exact markAt_eq_none (Nat.le_of_not_lt hge)

/-- Going back never adds a mark. -/
theorem length_restored_le (nested : Bool) (u : Trail) (m : Marks) :
    (u.restored nested m).marks.length ≤ m.length := by
  cases nested with
  | true => exact Nat.le_refl _
  | false => exact List.length_take_le _ _

namespace Good

/-- A failure is good if the marks below the level are still there. -/
theorem failed (h : Agree level opened m t.marks) :
    Good level opened m (.failed t) := h

/-- What survives below a level survives below every lower one. -/
theorem mono (h : Good level opened m o) (hl : level' ≤ level) :
    Good level' opened m o := by
  unfold Good at h ⊢
  split
  · next hf =>
    rw [if_pos hf] at h
    exact h
  · next hf =>
    rw [if_neg hf] at h
    exact fun i hi => h i (Nat.lt_of_lt_of_le hi hl)

/-- An outcome that is good for some marks is good for all that agree with
them. -/
theorem of_agree (h : Good level opened m' o)
    (hm : Agree level opened m m') : Good level opened m o := by
  unfold Good at h ⊢
  split
  · next hf =>
    rw [if_pos hf] at h
    exact h
  · next hf =>
    rw [if_neg hf] at h
    exact hm.trans h

/-- A second attempt may rely on what the first one has left alone. -/
theorem orElse {f : Trail → Outcome} (h : Good level' opened m o)
    (hl : level ≤ level')
    (hf : ∀ u, Agree level' opened m u.marks → Good level opened m (f u)) :
    Good level opened m (o.orElse f) := by
  have hlow := h.mono hl
  unfold Outcome.orElse
  split
  · exact hlow
  · next hfound =>
    unfold Good at h
    rw [if_neg hfound] at h
    exact hf o.trail h

/-- Where the search ends after a failure makes no difference to the marks.
-/
theorem orBack (h : Good level opened m o) :
    Good level opened m (o.orBack s) :=
  h.orElse (Nat.le_refl _) fun _ hu => failed hu

end Good

/-- After a failure a choice goes on with calm marks again. -/
theorem Calm.restored {nested : Bool} {u : Trail} {pos : Nat}
    (h : Calm bound opened pos m) (hn : nested = true ∨ bound ≤ level)
    (hu : Agree level opened m u.marks) :
    Calm bound opened pos (u.restored nested m).marks
      ∧ ∀ l, Agree l opened m (u.restored nested m).marks := by
  have hmarks := fun i hi => markAt_restored (i := i)
    (hn.imp_right fun hle => Nat.le_trans h.length_le hle) hu hi
  refine ⟨h.of_eq hmarks ?_, fun l i _ hi => hmarks i hi⟩
  exact Nat.le_trans (length_restored_le nested u m) h.length_le

/-- Entering a group opens it; until it is left its end may be anything. -/
theorem Calm.enter {g : Nat} (hc : Calm bound opened s.pos t.marks)
    (hb : bound ≤ bound') (hg : 2 * g + 1 ≤ bound') :
    Calm bound' (g :: opened) s.pos (t.enter (g + 1) s).marks := by
  have hmark : ∀ j, markAt (t.enter (g + 1) s).marks j
      = if j = 2 * g then some s.pos else markAt t.marks j :=
    fun j => markAt_mark t _ _ j
  have hlen : (t.enter (g + 1) s).marks.length
      = max t.marks.length (2 * g + 1) := length_mark t _ _
  have hle := hc.length_le
  refine ⟨by omega, fun i hi start stop hstart hstop => ?_,
    fun i hi start hstart => ?_⟩
  · rw [List.mem_cons, not_or] at hi
    rw [hmark, if_neg (by omega)] at hstart
    rw [hmark, if_neg (by omega)] at hstop
    exact hc.closed i hi.2 start stop hstart hstop
  · rw [hmark] at hstart
    split at hstart
    · cases hstart
      exact Nat.le_refl _
    · next hne =>
      rcases List.mem_cons.1 hi with rfl | hi
      · exact absurd rfl hne
      · exact hc.opened_le i hi start hstart

/-- A group is left with its end behind its beginning. -/
theorem Calm.leave {g : Nat} (hc : Calm bound (g :: opened) s.pos t.marks)
    (hg : 2 * g + 2 ≤ bound) :
    Calm bound opened s.pos (t.leave (g + 1) s).marks := by
  have hmark : ∀ j, markAt (t.leave (g + 1) s).marks j
      = if j = 2 * g + 1 then some s.pos else markAt t.marks j :=
    fun j => markAt_mark t _ _ j
  have hlen : (t.leave (g + 1) s).marks.length
      = max t.marks.length (2 * g + 1 + 1) := length_mark t _ _
  have hle := hc.length_le
  refine ⟨by omega, fun i hi start stop hstart hstop => ?_,
    fun i hi start hstart => ?_⟩
  · rw [hmark, if_neg (by omega)] at hstart
    rw [hmark] at hstop
    split at hstop
    · next he =>
      cases hstop
      have hgi : i = g := by omega
      exact hc.opened_le i (hgi ▸ List.mem_cons_self) start hstart
    · next hne =>
      refine hc.closed i ?_ start stop hstart hstop
      rw [List.mem_cons, not_or]
      exact ⟨fun he => hne (by rw [he]), hi⟩
  · rw [hmark, if_neg (by omega)] at hstart
    exact hc.opened_le i (List.mem_cons_of_mem g hi) start hstart

/-- What follows a node may be given a higher level and a larger bound to
deal with. -/
theorem Tail.Tame.mono (h : k.Tame level' bound' opened)
    (hl : level ≤ level') (hb : bound ≤ bound') :
    k.Tame level bound opened :=
  fun s t hc => (h s t (hc.mono hb (Nat.le_refl _))).mono hl

-- ============================================================ searches

namespace Search

variable {f g : Search} {level₁ bound₁ : Nat}

/-- One of two searches, of which the second goes on from the marks that a
failure of the first leaves. -/
theorem Tame.alt {nested : Bool} {lead : Option CharSet}
    (hf : f.Tame level bound level₁ bound₁)
    (hg : g.Tame level₁ bound₁ level' bound')
    (hl : level ≤ level₁) (hl' : level₁ ≤ level') (hb : bound ≤ bound₁)
    (hb' : bound₁ ≤ bound') (hn : nested = true ∨ bound ≤ level) :
    Tame (alt nested lead f g) level bound level' bound' := by
  intro opened s t k hc hk
  have hgo : ∀ u : Trail, Calm bound opened s.pos u.marks →
      Good level opened u.marks (g s u k) := fun u hu =>
    (hg opened s u k (hu.mono hb (Nat.le_refl _)) hk).mono hl
  unfold Search.alt
  split
  · exact hgo t hc
  · refine (hf opened s (t.footAt s) k.hidden hc
      (hk.mono hl' hb')).orElse (Nat.le_refl _) fun u hu => ?_
    obtain ⟨hcalm, hagree⟩ := hc.restored hn hu
    exact (hgo _ hcalm).of_agree (hagree level)

/-- One spot after the other is tried with the marks of the beginning. -/
theorem good_firstOf {nested : Bool} {marks : Marks} {pos : Nat}
    (hc : Calm bound opened pos marks)
    (hn : nested = true ∨ bound ≤ level) (hk : k.Tame level bound opened)
    {spots : List Spot} (hs : ∀ s ∈ spots, pos ≤ s.pos) {t : Trail}
    (ht : Calm bound opened pos t.marks)
    (hm : Agree level opened marks t.marks) :
    Good level opened marks (firstOf nested marks k spots t) := by
  induction spots generalizing t with
  | nil => exact Good.failed hm
  | cons s spots ih =>
      have hrest := fun v hv => hs v (List.mem_cons_of_mem s hv)
      unfold firstOf
      split
      · exact ih hrest ht hm
      · have hgood := hk s (t.footAt s)
          (ht.mono (Nat.le_refl _) (hs s List.mem_cons_self))
        refine (hgood.of_agree hm).orElse (Nat.le_refl _) fun u hu => ?_
        obtain ⟨hcalm, hagree⟩ := hc.restored hn hu
        exact ih hrest hcalm (hagree level)

/-- The same where the spots are found step by step. -/
theorem good_stepwise {nested : Bool} {set : CharSet} {marks : Marks}
    {pos : Nat} (hc : Calm bound opened pos marks)
    (hn : nested = true ∨ bound ≤ level) (hk : k.Tame level bound opened)
    (n : Nat) {s : Spot} (hs : pos ≤ s.pos) {t : Trail}
    (ht : Calm bound opened pos t.marks)
    (hm : Agree level opened marks t.marks) :
    Good level opened marks (stepwise nested set marks k n s t) := by
  induction n generalizing s t with
  | zero =>
      unfold stepwise
      have hgood := hk s (t.footAt s) (ht.mono (Nat.le_refl _) hs)
      refine (hgood.of_agree hm).orElse (Nat.le_refl _) fun u hu => ?_
      obtain ⟨-, hagree⟩ := hc.restored hn hu
      cases s.step? set with
      | none => exact Good.failed (hagree level)
      | some next =>
          refine Good.failed ?_
          split <;> exact hagree level
  | succ n ih =>
      unfold stepwise
      have hgood := hk s (t.footAt s) (ht.mono (Nat.le_refl _) hs)
      refine (hgood.of_agree hm).orElse (Nat.le_refl _) fun u hu => ?_
      obtain ⟨hcalm, hagree⟩ := hc.restored hn hu
      cases hstep : s.step? set with
      | none => exact Good.failed (hagree level)
      | some next =>
          have hpos := Spot.pos_of_step? hstep
          dsimp only
          split
          · exact ih (by omega) hcalm (hagree level)
          · exact ih (by omega) hcalm (hagree level)

/-- Repeated characters set no marks themselves. -/
theorem Tame.span {nested : Bool} (a : Appetite) (least : Nat)
    (most : Option Nat) (set : CharSet)
    (hn : nested = true ∨ bound ≤ level) :
    Tame (span nested a least most set) level bound level bound := by
  intro opened s t k hc hk
  have hself : Agree level opened t.marks t.marks := fun _ _ _ => rfl
  have hpos : ∀ {n : Nat} {u : Spot}, u ∈ s.reach set n → s.pos ≤ u.pos :=
    fun hu => (Spot.leads_of_mem_reach hu).pos_le
  have hfar : ∀ n, s.pos ≤ ((s.reach set n).getLastD s).pos := fun n =>
    hpos (List.mem_of_getLast? (Spot.getLast?_reach _ _ n))
  unfold Search.span
  split
  · exact Good.failed hself
  dsimp only
  generalize (if a = .lazy then least else min (most.getD s.left) s.left) = n
  split
  · exact Good.failed hself
  cases a with
  | greedy =>
      exact good_firstOf hc hn hk (fun u hu => hpos
        (List.mem_of_mem_drop (List.mem_reverse.1 hu))) hc hself
  | lazy => exact good_stepwise hc hn hk _ (hfar _) hc hself
  | possessive => exact hk _ _ (hc.mono (Nat.le_refl _) (hfar _))

-- ---------------------------------------------------------------- loops

/-- A number of iterations that has to be made. -/
theorem Tame.times (hf : f.Tame level bound level bound)
    (hg : g.Tame level bound level' bound') (n : Nat) :
    Tame (times f g n) level bound level' bound' := by
  induction n with
  | zero => exact hg
  | succ n ih =>
      intro opened s t k hc hk
      unfold Search.times
      exact (hf opened s (t.footAt s) _ hc
        fun u v hv => ih opened u v k hv hk).orBack

/-- An iteration that ends goes on with what follows it. -/
theorem good_stop (hc : Calm bound opened s.pos t.marks)
    (hk : k.Tame level' bound' opened) (hl : level ≤ level')
    (hb : bound ≤ bound') : Good level opened t.marks (stop s t k) :=
  ((hk s (t.footAt s) (hc.mono hb (Nat.le_refl _))).mono hl).orBack

/-- Iterations as long as they succeed, and then what follows. -/
theorem Tame.greedy (hf : f.Tame level bound level bound)
    (hl : level ≤ level') (hb : bound ≤ bound') (n : Nat)
    (last : Option Nat) :
    Tame (greedy f n last) level bound level' bound' := by
  induction n generalizing last with
  | zero => exact fun opened s t k hc hk => good_stop hc hk hl hb
  | succ n ih =>
      intro opened s t k hc hk
      unfold Search.greedy
      split
      · exact good_stop hc hk hl hb
      · exact (hf opened s (t.footAt s) _ hc
          fun u v hv => ih _ opened u v k hv hk).orElse (Nat.le_refl _)
          fun _ _ => good_stop hc hk hl hb

/-- What follows is tried first, and another iteration if it fails. -/
theorem Tame.lazy {nested : Bool} (hf : f.Tame level bound level bound)
    (hl : level ≤ level') (hb : bound ≤ bound')
    (hn : nested = true ∨ bound ≤ level') (n : Nat) (last : Option Nat) :
    Tame (lazy nested f n last) level bound level' bound' := by
  induction n generalizing last with
  | zero =>
      intro opened s t k hc hk
      unfold Search.lazy
      refine (hk s (t.footAt s) (hc.mono hb (Nat.le_refl _))).orElse hl
        fun u hu => ?_
      exact Good.failed ((hc.restored hn hu).2 level)
  | succ n ih =>
      intro opened s t k hc hk
      unfold Search.lazy
      refine (hk s (t.footAt s) (hc.mono hb (Nat.le_refl _))).orElse hl
        fun u hu => ?_
      obtain ⟨hcalm, hagree⟩ := hc.restored hn hu
      dsimp only
      split
      · exact Good.failed (hagree level)
      · exact ((hf opened s ((u.restored nested t.marks).footAt s) _ hcalm
          fun v w hw => ih _ opened v w k hw hk).of_agree
            (hagree level)).orBack

-- --------------------------------------------------------------- groups

/-- A group sets its start before and its end behind its content. While it
is open, its end is not yet settled. -/
theorem Tame.group {g : Nat} (hf : f.Tame level₁ bound₁ level' bound')
    (hl : level ≤ level₁) (hg : level ≤ 2 * g) (hb : bound ≤ bound₁)
    (hb₁ : 2 * g + 1 ≤ bound₁) (hb' : 2 * g + 2 ≤ bound') :
    Tame (fun s t k => f s (t.enter (g + 1) s)
      { go := fun s t => k.go s (t.leave (g + 1) s) })
      level bound level' bound' := by
  intro opened s t k hc hk
  have hgood := hf (g :: opened) s (t.enter (g + 1) s)
    { go := fun s t => k.go s (t.leave (g + 1) s) } (hc.enter hb hb₁)
    fun u v hv => ?_
  -- The content fails: the start mark of the group lies above the level,
  -- and its end is not looked at while it is open.
  · have hopen : Agree level opened t.marks (t.enter (g + 1) s).marks := by
      intro i hi _
      rw [show (t.enter (g + 1) s).marks = (t.mark (2 * g) s.pos).marks
        from rfl, markAt_mark, if_neg (by omega)]
    have hlow := hgood.mono hl
    unfold Good at hlow ⊢
    split
    · next hfound =>
      rw [if_pos hfound] at hlow
      exact hlow
    · next hfound =>
      rw [if_neg hfound] at hlow
      intro i hi hset
      rw [hopen i hi hset]
      refine hlow i hi fun j hj => ?_
      rcases List.mem_cons.1 hj with rfl | hj
      · omega
      · exact hset j hj
  -- What follows fails: the end mark may have been set, but the group is
  -- still open for those before it.
  · have hleft := hk u (v.leave (g + 1) u) (hv.leave hb')
    unfold Good at hleft ⊢
    split
    · next hfound =>
      rw [if_pos hfound] at hleft
      exact hleft
    · next hfound =>
      rw [if_neg hfound] at hleft
      intro i hi hset
      have hne := hset g List.mem_cons_self
      rw [← hleft i hi fun j hj => hset j (List.mem_cons_of_mem g hj),
        show (v.leave (g + 1) u).marks = (v.mark (2 * g + 1) u.pos).marks
          from rfl, markAt_mark, if_neg hne]

/-- A single character sets no mark. -/
theorem Tame.one (nested : Bool) (set : CharSet) :
    Tame ((Node.one set).run nested) level bound level bound := by
  intro opened s t k hc hk
  unfold Node.run
  cases hstep : s.step? set with
  | none => exact Good.failed fun _ _ _ => rfl
  | some u =>
      have hpos := Spot.pos_of_step? hstep
      exact hk u t (hc.mono (Nat.le_refl _) (by omega))

/-- Looking at a single character leaves no marks. -/
theorem Tame.look_one {nested negated : Bool} {distance : Nat}
    (set : CharSet) :
    Tame (look nested negated distance ((Node.one set).run nested))
      level bound level bound := by
  intro opened s t k hc hk
  have hself : Agree level opened t.marks t.marks := fun _ _ _ => rfl
  have hmarks : ∀ u : Trail, u.marks = t.marks →
      Good level opened t.marks (k.go s u) := by
    intro u hu
    have hgood := hk s u (by rw [hu]; exact hc)
    rw [hu] at hgood
    exact hgood
  unfold Search.look Node.run
  split
  · cases negated
    · exact Good.failed hself
    · exact hmarks t rfl
  · dsimp only
    cases (s.back distance).step? set with
    | none =>
        cases negated
        · exact Good.failed hself
        · refine hmarks _ ?_
          cases nested
          · exact List.take_length
          · rfl
    | some u =>
        cases negated
        · exact hmarks _ rfl
        · exact Good.failed hself

end Search

-- =============================================================== nodes

/-- Numbers of groups do not go down. -/
theorem Node.le_of_numbered {n : Node} {g h : Nat}
    (hn : n.numbered g = some h) : g ≤ h := by
  induction n generalizing g h with
  | empty | fail | one _ | assertion _ | span _ _ _ _ =>
      cases hn
      exact Nat.le_refl g
  | seq a b iha ihb | alt a b iha ihb =>
      obtain ⟨i, hi, hb⟩ := Option.bind_eq_some_iff.1 hn
      exact Nat.le_trans (iha hi) (ihb hb)
  | loop a _ _ n ih =>
      unfold numbered at hn
      split at hn
      · cases hn
      · exact ih hn
  | group i n ih =>
      unfold numbered at hn
      split at hn
      · exact Nat.le_of_succ_le (ih hn)
      · cases hn
  | flagged n ih => exact ih hn
  | look side negated n =>
      cases n with
      | one _ =>
          cases hn
          exact Nat.le_refl g
      | _ => cases hn
  | _ => cases hn

/-- The level or the bound behind so many groups: inside an iteration it
stays as it is, elsewhere it grows with the groups. -/
def levelAt (nested : Bool) (base g : Nat) : Nat :=
  if nested then base else 2 * g

/-- The level does not go down from group to group. -/
theorem levelAt_mono (nested : Bool) (base : Nat) {g h : Nat} (hgh : g ≤ h) :
    levelAt nested base g ≤ levelAt nested base h := by
  unfold levelAt
  split <;> omega

theorem levelAt_le (nested : Bool) {base g : Nat} (h : base ≤ 2 * g) :
    levelAt nested base g ≤ 2 * g := by
  unfold levelAt
  split <;> omega

theorem le_levelAt (nested : Bool) {base g : Nat} (h : 2 * g ≤ base) :
    2 * g ≤ levelAt nested base g := by
  unfold levelAt
  split <;> omega

/-- Inside an iteration all marks are taken back; outside, none that could
be overwritten is set. -/
theorem nested_or_levelAt_le (nested : Bool) (base top g : Nat) :
    nested = true ∨ levelAt nested top g ≤ levelAt nested base g := by
  cases nested
  · exact Or.inr (Nat.le_refl _)
  · exact Or.inl rfl

/-- A loop whose turns keep to one level and one bound. -/
theorem Node.loop_tame {nested : Bool} {a : Appetite} (ha : a ≠ .possessive)
    {n : Node} (hf : (n.run true).Tame level bound' level bound')
    (hl : level ≤ level') (hb : bound ≤ bound')
    (hn : nested = true ∨ bound' ≤ level') (least : Nat)
    (most : Option Nat) :
    ((Node.loop a least most n).run nested).Tame level bound level'
      bound' := by
  intro opened s t k hc hk
  have hc' := hc.mono hb (Nat.le_refl _)
  cases a with
  | greedy =>
      rw [run, show (nested || Appetite.greedy != .possessive) = true
        from Bool.or_true _]
      exact (hf.times (hf.greedy hl (Nat.le_refl _) _ _) least)
        opened s _ k hc' hk
  | lazy =>
      rw [run, show (nested || Appetite.lazy != .possessive) = true
        from Bool.or_true _]
      exact (hf.times (hf.lazy hl (Nat.le_refl _) hn _ _) least)
        opened s _ k hc' hk
  | possessive => exact absurd rfl ha

/-- A node with groups in order does well with calm marks. -/
theorem Node.run_tame {n : Node} {g h base top : Nat} (nested : Bool)
    (hn : n.numbered g = some h) (hl : base ≤ 2 * g) (hb : 2 * h ≤ top) :
    (n.run nested).Tame (levelAt nested base g) (levelAt nested top g)
      (levelAt nested base h) (levelAt nested top h) := by
  induction n generalizing g h base top nested with
  | empty =>
      cases hn
      exact fun opened s t k hc hk => hk s t hc
  | fail => exact fun opened s t k hc hk => Good.failed fun _ _ _ => rfl
  | one set =>
      cases hn
      exact Search.Tame.one nested set
  | assertion a =>
      cases hn
      intro opened s t k hc hk
      unfold run
      split
      · exact hk s t hc
      · exact Good.failed fun _ _ _ => rfl
  | seq a b iha ihb =>
      obtain ⟨i, hi, hbn⟩ := Option.bind_eq_some_iff.1 hn
      have h₁ := le_of_numbered hi
      have h₂ := le_of_numbered hbn
      intro opened s t k hc hk
      exact iha nested hi hl (by omega) opened s t _ hc fun u v hv =>
        ihb nested hbn (by omega) hb opened u v k hv hk
  | alt a b iha ihb =>
      obtain ⟨i, hi, hbn⟩ := Option.bind_eq_some_iff.1 hn
      have h₁ := le_of_numbered hi
      have h₂ := le_of_numbered hbn
      exact (iha nested hi hl (by omega)).alt (ihb nested hbn (by omega) hb)
        (levelAt_mono _ _ h₁) (levelAt_mono _ _ h₂)
        (levelAt_mono _ _ h₁) (levelAt_mono _ _ h₂)
        (nested_or_levelAt_le _ _ _ _)
  | span a least most set =>
      cases hn
      exact Search.Tame.span a _ _ set (nested_or_levelAt_le _ _ _ _)
  | loop a least most n ih =>
      unfold numbered at hn
      split at hn
      · cases hn
      · next ha =>
        -- the turns keep to the level of the beginning and the bound of
        -- the end
        have hle := le_of_numbered hn
        have hf : (n.run true).Tame _ _ _ _ :=
          ih true hn (levelAt_le nested hl) (le_levelAt nested hb)
        exact loop_tame ha hf (levelAt_mono nested base hle)
          (levelAt_mono nested top hle)
          (nested_or_levelAt_le nested base top h) least most
  | group i n ih =>
      unfold numbered at hn
      split at hn
      · next hi =>
        subst hi
        have hle := le_of_numbered hn
        have hb₁ : 2 * (g + 1) ≤ levelAt nested top (g + 1) :=
          le_levelAt nested (by omega)
        have hb₂ := le_levelAt nested hb
        exact (ih nested hn (by omega) hb).group
          (levelAt_mono _ _ (Nat.le_succ g)) (levelAt_le nested hl)
          (levelAt_mono _ _ (Nat.le_succ g)) (by omega) (by omega)
      · cases hn
  | flagged n ih => exact ih nested hn hl hb
  | look side negated n =>
      cases n with
      | one set =>
          cases hn
          exact Search.Tame.look_one set
      | _ => cases hn
  | _ => cases hn

-- ============================================================ patterns

/-- No group of a match is crossed if the groups are numbered in order. -/
theorem crossing?_of_trail? {n : Node} {h : Nat}
    (hn : n.numbered 0 = some h) {s : Spot} {t : Trail}
    (ht : Pattern.trail? n s = some t) : t.crossing? = none := by
  have hcalm : Calm 0 [] s.pos ([] : Marks) :=
    ⟨Nat.le_refl 0, fun _ _ _ _ h => by simp [markAt] at h,
      fun _ h => absurd h List.not_mem_nil⟩
  have hdone : Tail.done.Tame (2 * h) (2 * h) [] := fun u v hv =>
    crossing?_go_eq_none 1 fun g => hv.closed g List.not_mem_nil
  have hgood := Node.run_tame false hn (Nat.le_refl 0) (Nat.le_refl _)
    [] s { foot := s } .done hcalm hdone
  unfold Pattern.trail? at ht
  dsimp only at ht
  split at ht
  · next hfound =>
    cases ht
    unfold Good at hgood
    rw [if_pos hfound] at hgood
    exact hgood
  · cases ht

end Highlight.Regex
