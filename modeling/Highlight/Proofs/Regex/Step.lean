/-
What one step of a reading can do to the state, and what therefore holds
of a whole reading.

A step adds an item, repeats the last one, or begins, parts or ends a
scope; only while nothing has been read can it turn on flags of the whole
pattern (`Becomes`). So the flags of the pattern only ever grow, and no more
once something has been read (`State.flags_le_of_read`,
`State.isRooted_of_read`), and no node that is made asks for more text than
the cap allows (`State.isCapped_of_read`).
-/
import Highlight.Proofs.Regex.Filled

namespace Highlight.Regex

-- ========================================================== vocabulary

/-- The node asks for less text than the cap. -/
def Node.IsCapped (n : Node) : Prop := n.width.least ≤ Width.cap - 1

/-- No group that is known asks for more text than the cap allows. -/
def Known.IsCapped (k : Known) : Prop :=
  ∀ w, some w ∈ k.widths → w.least ≤ Width.cap - 1

/-- Nothing that was read into the scope asks for more text than the cap
allows. -/
structure Scope.IsCapped (s : Scope) : Prop where
  branches : ∀ b ∈ s.branches, ∀ n ∈ b, n.IsCapped
  items : ∀ i ∈ s.items, ∀ n ∈ i.nodes, n.IsCapped

/-- Nothing in the state asks for more text than the cap allows. -/
structure State.IsCapped (s : State) : Prop where
  scope : s.scope.IsCapped
  outer : ∀ o ∈ s.outer, o.IsCapped
  known : s.known.IsCapped

/-- The scope of the whole pattern. -/
def State.root (s : State) : Scope := s.outer.getLastD s.scope

/-- All flags of the first set are in the second. -/
def Flags.Le (fs gs : Flags) : Prop := fs.union gs = gs

/-- Something has been read into the scope of the whole pattern or into
one inside it, and the flags of the pattern are these. -/
structure State.IsRooted (fs : Flags) (s : State) : Prop where
  flags : s.root.flags = fs
  kind : s.root.kind = .pattern
  begun : s.outer = [] → s.scope.isFresh = false

/-- What a step can make of a state. -/
inductive Becomes (s : State) : State → Prop
  /-- Blank space or a comment. -/
  | stay : Becomes s s
  | add {i : Item} (h : s.known.IsCapped → ∀ n ∈ i.nodes, n.IsCapped) :
    Becomes s (s.add i)
  | again {a : Appetite} {least : Nat} {most : Option Nat} {i : Item}
    {items : List Item} (h : s.scope.items = i :: items) :
    Becomes s { s with scope := { s.scope with
      items := .repeated (.iterate a least most (.ofList i.nodes)) :: items } }
  | part : Becomes s s.nextBranch
  | close : Becomes s s.close
  | push {kind : ScopeKind} {opened : Nat} {flags : Flags} {known : Known}
    (h : ∀ w, some w ∈ known.widths → some w ∈ s.known.widths) :
    Becomes s { scope := { kind, opened, flags },
                outer := s.scope :: s.outer, known }
  | flags {on : Flags} (houter : s.outer = []) (hfresh : s.scope.isFresh) :
    Becomes s { s with scope := { s.scope with
      flags := s.scope.flags.union on } }

-- =============================================================== widths

namespace Node

variable {ns : List Node}

theorem isCapped_one (set : CharSet) : (one set).IsCapped := by
  show 1 ≤ Width.cap - 1
  decide

/-- What may be empty is below every cap. -/
theorem isCapped_of_zero {n : Node} (h : n.width.least = 0) : n.IsCapped := by
  unfold IsCapped
  rw [h]
  exact Nat.zero_le _

/-- A sequence cuts the sum of its widths off. -/
theorem isCapped_seq (a b : Node) : (seq a b).IsCapped :=
  Nat.min_le_right _ _

/-- So do iterations, of whatever they repeat. -/
theorem isCapped_iterate (a : Appetite) (least : Nat) (most : Option Nat)
    (n : Node) : (iterate a least most n).IsCapped := by
  unfold iterate
  split <;> exact Nat.min_le_right _ _

/-- Nodes in a row are as good as each of them. -/
theorem isCapped_ofList (h : ∀ n ∈ ns, n.IsCapped) : (ofList ns).IsCapped := by
  rcases ns with _ | ⟨n, _ | ⟨m, ns⟩⟩
  · exact isCapped_of_zero rfl
  · exact h n List.mem_cons_self
  · exact isCapped_seq _ _

/-- A choice is no wider than the cap, since it is cut off too. -/
theorem isCapped_choice (ns : List Node) : (choice ns).IsCapped := by
  induction ns with
  | nil => exact Nat.le_refl _
  | cons n ns ih => exact Nat.le_trans (Nat.min_le_right _ _) ih

/-- Taking out what alternatives begin with makes no node wider. -/
theorem isCapped_of_mem_ofBranches {fold : Fold} {ascii : Bool}
    {bs : List (List Node)} (h : ∀ b ∈ bs, ∀ n ∈ b, n.IsCapped) :
    ∀ n ∈ ofBranches fold ascii bs, n.IsCapped := by
  refine of_mem_ofBranches isCapped_one (fun _ _ => isCapped_choice _) h

end Node

namespace Scope

variable {o : Scope}

theorem IsCapped.branch (h : o.IsCapped) :
    ∀ n ∈ o.branch, n.IsCapped := by
  intro n hn
  obtain ⟨i, hi, hn⟩ := List.mem_flatMap.1 hn
  exact h.items i (List.mem_reverse.1 hi) n hn

/-- The nodes that a scope becomes are those that were added to it. -/
theorem IsCapped.content (h : o.IsCapped) :
    ∀ n ∈ o.content, n.IsCapped := by
  refine Node.isCapped_of_mem_ofBranches ?_
  intro b hb
  rcases List.mem_append.1 hb with hb | hb
  · exact h.branches b (List.mem_reverse.1 hb)
  · exact List.mem_singleton.1 hb ▸ h.branch

theorem IsCapped.add {i : Item} (h : o.IsCapped)
    (hi : ∀ n ∈ i.nodes, n.IsCapped) : (o.add i).IsCapped := by
  refine ⟨h.branches, ?_⟩
  intro j hj
  rcases List.mem_cons.1 hj with rfl | hj
  · exact hi
  · exact h.items j hj

end Scope

namespace Flags

theorem le_refl (fs : Flags) : fs.Le fs := by
  simp [Le, union]

/-- Flags that have been turned on once stay on. -/
theorem Le.trans {fs gs hs : Flags} (h : fs.Le gs) (h' : gs.Le hs) :
    fs.Le hs := by
  unfold Le at *
  rw [← h', ← h]
  simp [union, Bool.or_assoc]

theorem le_union_left (fs gs : Flags) : fs.Le (fs.union gs) := by
  simp [Le, union]

theorem le_union_right (fs gs : Flags) : gs.Le (fs.union gs) := by
  simp only [Le, union, Flags.mk.injEq]
  grind

end Flags

namespace State

variable {s s' : State} {r : Text}

-- =============================================================== steps

/-- The width of a group is that of its content. -/
theorem isCapped_of_width? {k : Known} {number : Nat} {w : Width}
    (h : k.width? number = some w) (hk : k.IsCapped) :
    w.least ≤ Width.cap - 1 := by
  unfold Known.width? at h
  split at h
  · cases h
  · rw [Option.join_eq_some_iff] at h
    exact hk w (List.mem_of_getElem? h)

/-- A new node adds an item to the innermost scope. -/
theorem becomes_addOther {n : Node} (h : s.known.IsCapped → n.IsCapped) :
    Becomes s (s.add (.other n)) :=
  .add fun hk _ hm => List.mem_singleton.1 hm ▸ h hk

theorem becomes_addOne (set : CharSet) :
    Becomes s (s.add (.other (.one set))) :=
  becomes_addOther fun _ => Node.isCapped_one set

theorem becomes_addAssertion (a : Assertion) :
    Becomes s (s.add (.assertion a)) :=
  .add fun _ _ hm => List.mem_singleton.1 hm ▸ Node.isCapped_of_zero rfl

/-- A reference is as wide as its group, which is known. -/
theorem becomes_addReference {number : Nat} {fold : Fold} {w : Width}
    (h : s.known.width? number = some w) :
    Becomes s (s.add (.other (.reference number fold w))) :=
  becomes_addOther (isCapped_of_width? h)

/-- What passes a check is not changed by it. -/
theorem yields_of_check {m : Except Refusal Unit} {f : Except Refusal State}
    {P : State → Prop} (h : Yields f P) : Yields (m >>= fun _ => f) P :=
  Yields.bind (P := fun _ => True) (fun _ _ => trivial) fun _ _ => h

/-- Whatever an escape stands for is added as one item. -/
theorem becomes_of_addEscaped (e : Escaped) (start fromEnd : Nat) :
    Yields (s.addEscaped e start fromEnd) (Becomes s) := by
  unfold addEscaped
  dsimp only
  split
  · exact .ok (becomes_addOne _)
  · exact .ok (becomes_addOne _)
  · exact .ok (becomes_addAssertion _)
  · split
    · exact .refuse
    · split
      · exact .refuse
      · next hw => exact yields_of_check (.ok (becomes_addReference hw))

theorem becomes_of_addReference (name : Text) (fromEnd : Nat) :
    Yields (s.addReference name fromEnd) (Becomes s) := by
  unfold addReference
  dsimp only
  split
  · exact .refuse
  · split
    · exact .refuse
    · next hw => exact yields_of_check (.ok (becomes_addReference hw))

/-- A new scope lies above the old ones, under the same flags or others. -/
theorem becomes_of_push {known : Known} (kind : ScopeKind) (opened : Nat)
    (flags : Flags)
    (h : ∀ w, some w ∈ known.widths → some w ∈ s.known.widths) :
    Yields (push { s with known } kind opened flags) (Becomes s) := by
  unfold push
  split
  · exact .error
  · exact .ok (.push h)

/-- A group that begins has no width so far. -/
theorem yields_begin (k : Known) (name : Option Text) (fromEnd : Nat) :
    Yields (k.begin name fromEnd)
      fun known => known.widths = k.widths ++ [none] := by
  unfold Known.begin
  dsimp only
  split
  · exact .ok rfl
  · split
    · exact .refuse
    · exact .ok rfl

/-- A condition leaves the widths as they are. -/
theorem yields_conditionGroup (k : Known) (written : Text) (fromEnd : Nat) :
    Yields (k.conditionGroup written fromEnd)
      fun v => v.2.widths = k.widths := by
  unfold Known.conditionGroup
  dsimp only
  split
  · split
    · exact .ok rfl
    · exact .refuse
  · split
    · exact .refuse
    · split
      · exact .refuse
      · split
        · exact .refuse
        · split
          · exact .ok rfl
          · exact .ok rfl

/-- What a parenthesis opens is a scope, an item or more flags. -/
theorem becomes_of_opened (o : Opening) (start fromEnd : Nat) :
    Yields (s.opened o start fromEnd) (Becomes s) := by
  unfold opened
  dsimp only
  split
  · refine (yields_begin _ _ _).bind fun known h => ?_
    refine becomes_of_push _ _ _ fun w hw => ?_
    rw [h, List.mem_append] at hw
    exact hw.resolve_right (by simp)
  · exact becomes_of_push _ _ _ fun _ h => h
  · exact becomes_of_push _ _ _ fun _ h => h
  · refine becomes_of_push _ _ _ fun _ h => ?_
    split at h <;> exact h
  · refine (yields_conditionGroup _ _ _).bind fun v h => ?_
    exact yields_of_check (becomes_of_push _ _ _ fun w hw => h ▸ hw)
  · exact becomes_of_addReference _ _
  · exact .ok .stay
  · split
    · next h =>
      obtain ⟨houter, hfresh⟩ := Bool.and_eq_true _ _ ▸ h
      exact .ok (.flags (List.isEmpty_iff.1 houter) hfresh)
    · exact .refuse

/-- An iteration takes the last item up. -/
theorem yields_repeatable (place : Nat) :
    Yields (s.repeatable place) fun v => ∃ i, v.1 = .ofList i.nodes
      ∧ s.scope.items = i :: v.2 := by
  unfold repeatable
  split
  · exact .refuse
  · exact .refuse
  · exact .refuse
  · next i items _ _ h => exact .ok ⟨i, rfl, h⟩

/-- A repetition takes the place of the last item. -/
theorem becomes_of_addRepeat (sign : Char) (r : Text) :
    Yields (s.addRepeat sign r) fun v => Becomes s v.1 := by
  refine Yields.bind (P := fun _ => True) (fun _ _ => trivial) fun q _ => ?_
  split
  · exact .ok (becomes_addOne _)
  · refine (yields_repeatable _).bind fun v h => ?_
    obtain ⟨n, items⟩ := v
    obtain ⟨i, hn, hitems⟩ := h
    change n = _ at hn
    subst hn
    exact Yields.bind (P := fun _ => True) (fun _ _ => trivial)
      fun _ _ => .ok (.again hitems)

/-- A character with a meaning makes one of these moves. -/
theorem becomes_of_stepPlain (c : Char) (start : Nat) (r : Text) :
    Yields (s.stepPlain c start r) fun v => Becomes s v.1 := by
  unfold stepPlain
  dsimp only
  split
  · exact .ok .part
  · exact .ok .close
  · exact Yields.bind (P := fun _ => True) (fun _ _ => trivial)
      fun _ _ => .ok (becomes_addOne _)
  · refine Yields.bind (P := fun _ => True) (fun _ _ => trivial)
      fun v _ => ?_
    exact (becomes_of_opened _ _ _).bind fun _ h => .ok h
  · exact becomes_of_addRepeat _ r
  · exact becomes_of_addRepeat _ r
  · exact becomes_of_addRepeat _ r
  · exact becomes_of_addRepeat _ r
  · exact .ok (becomes_addOne _)
  · exact .ok (becomes_addAssertion _)
  · exact .ok (becomes_addAssertion _)
  · exact .ok (becomes_addOne _)

/-- Every step is a move. -/
theorem becomes_of_step (r : Text) :
    Yields (s.step r) fun v => Becomes s v.1 := by
  unfold step
  split
  · exact .refuse
  · refine Yields.bind (P := fun _ => True) (fun _ _ => trivial)
      fun v _ => ?_
    split
    · exact .ok .stay
    · refine Yields.bind (P := fun _ => True) (fun _ _ => trivial)
        fun w _ => ?_
      exact (becomes_of_addEscaped _ _ _).bind fun _ h => .ok h
    · split
      · exact .ok .stay
      · split
        · exact Yields.bind (P := fun _ => True) (fun _ _ => trivial)
            fun _ _ => .ok .stay
        · exact becomes_of_stepPlain _ _ _

/-- What every move keeps holds at the end of a reading. -/
theorem of_read {P : State → Prop} {sf : State} {rf : Text}
    (hmove : ∀ s s', P s → Becomes s s' → P s') (hs : P s)
    (h : s.read r = .ok (sf, rf)) : P sf := by
  fun_induction read s r with
  | case1 s r =>
      cases h
      exact hs
  | case2 => cases h
  | case3 s r _ s' r' hstep _ ih =>
      exact ih (hmove s s' hs (becomes_of_step r _ hstep)) h

-- ============================================================== closing

/-- What a scope leaves behind asks for no more than its content. -/
theorem isCapped_closed {o : Scope} {k : Known} (h : o.IsCapped)
    (hk : k.IsCapped) :
    (∀ n ∈ (closed o k).1.nodes, n.IsCapped) ∧ (closed o k).2.IsCapped := by
  have hcontent := Node.isCapped_ofList h.content
  unfold closed
  dsimp only
  split
  · exact ⟨h.content, hk⟩
  · exact ⟨h.content, hk⟩
  · exact ⟨fun n hn => List.mem_singleton.1 hn ▸ hcontent, hk⟩
  · refine ⟨fun n hn => List.mem_singleton.1 hn ▸ hcontent, ?_⟩
    intro w hw
    rcases List.mem_or_eq_of_mem_set hw with hw | hw
    · exact hk w hw
    · cases hw
      exact hcontent
  · exact ⟨fun n hn => List.mem_singleton.1 hn ▸ hcontent, hk⟩
  · refine ⟨fun n hn => List.mem_singleton.1 hn
      ▸ Node.isCapped_of_zero rfl, ?_⟩
    dsimp only
    split <;> exact hk
  · refine ⟨fun n hn => ?_, hk⟩
    rw [List.mem_singleton.1 hn]
    exact Nat.le_trans (Nat.min_le_right _ _) (Nat.zero_le _)
  · refine ⟨fun n hn => ?_, hk⟩
    rw [List.mem_singleton.1 hn]
    exact Nat.le_trans (Nat.min_le_right _ _) hcontent

-- ========================================================== invariants

/-- No move makes anything too wide. -/
theorem IsCapped.move (h : s.IsCapped) (hm : Becomes s s') :
    s'.IsCapped := by
  cases hm with
  | stay => exact h
  | add hi => exact ⟨h.scope.add (hi h.known), h.outer, h.known⟩
  | @again a least most i items hitems =>
      refine ⟨⟨h.scope.branches, fun j hj => ?_⟩, h.outer, h.known⟩
      rcases List.mem_cons.1 hj with rfl | hj
      · exact fun n hn => List.mem_singleton.1 hn
          ▸ Node.isCapped_iterate _ _ _ _
      · exact h.scope.items j (hitems ▸ List.mem_cons_of_mem i hj)
  | part =>
      unfold nextBranch
      split
      · exact ⟨⟨h.scope.branches, nofun⟩, h.outer, h.known⟩
      · refine ⟨⟨fun b hb => ?_, nofun⟩, h.outer, h.known⟩
        rcases List.mem_cons.1 hb with rfl | hb
        · exact h.scope.branch
        · exact h.scope.branches b hb
  | close =>
      unfold State.close
      split
      · exact h
      · next parent outer houter =>
        obtain ⟨hitem, hknown⟩ := isCapped_closed h.scope h.known
        have hall := h.outer
        rw [houter, List.forall_mem_cons] at hall
        exact ⟨hall.1.add hitem, hall.2, hknown⟩
  | push hw =>
      refine ⟨⟨nofun, nofun⟩, ?_, fun w h' => h.known w (hw w h')⟩
      exact List.forall_mem_cons.2 ⟨h.scope, h.outer⟩
  | flags => exact ⟨⟨h.scope.branches, h.scope.items⟩, h.outer, h.known⟩

-- ============================================================ the root

theorem getLastD_congr {α β : Type} (f : α → β) {a b : α} (h : f a = f b)
    (l : List α) : f (l.getLastD a) = f (l.getLastD b) := by
  cases l with
  | nil => exact h
  | cons c l => rw [List.getLastD_cons, List.getLastD_cons]

/-- Another top scope with the same flags leaves those of the pattern. -/
theorem root_flags_of_top (houter : s'.outer = s.outer)
    (h : s'.scope.flags = s.scope.flags) : s'.root.flags = s.root.flags := by
  unfold root
  rw [houter]
  exact getLastD_congr Scope.flags h s.outer

/-- The outermost scope keeps its kind if the innermost one does. -/
theorem root_kind_of_top (houter : s'.outer = s.outer)
    (h : s'.scope.kind = s.scope.kind) : s'.root.kind = s.root.kind := by
  unfold root
  rw [houter]
  exact getLastD_congr Scope.kind h s.outer

/-- A new scope does not change what lies at the bottom. -/
theorem root_push (h : s'.outer = s.scope :: s.outer) : s'.root = s.root := by
  unfold root
  rw [h, List.getLastD_cons]

/-- A scope inside the pattern hands its item to the one around it. -/
theorem root_close : s.close.root.flags = s.root.flags
    ∧ s.close.root.kind = s.root.kind := by
  unfold State.close
  split
  · exact ⟨rfl, rfl⟩
  · next parent outer houter =>
    unfold root
    rw [houter, List.getLastD_cons]
    exact ⟨getLastD_congr Scope.flags (by rfl) outer,
      getLastD_congr Scope.kind (by rfl) outer⟩

/-- A bar changes no flags, and a pattern stays a pattern. -/
theorem root_part : s.nextBranch.root.flags = s.root.flags
    ∧ (s.root.kind = .pattern → s.nextBranch.root.kind = .pattern) := by
  unfold nextBranch
  split
  · next number hkind =>
    refine ⟨root_flags_of_top rfl rfl, fun h => ?_⟩
    -- the branch of a choice is never the scope of the pattern
    unfold root at h ⊢
    cases houter : s.outer with
    | nil =>
        rw [houter, List.getLastD_nil, hkind] at h
        cases h
    | cons parent outer => rwa [houter] at h
  · refine ⟨root_flags_of_top rfl rfl, fun h => ?_⟩
    rw [← h]
    exact root_kind_of_top rfl rfl

/-- A move leaves the scope of the pattern alone, unless nothing has been
read. -/
theorem root_of_becomes (hm : Becomes s s') :
    (s'.root.flags = s.root.flags
      ∧ (s.root.kind = .pattern → s'.root.kind = .pattern))
    ∨ (s.outer = [] ∧ s.scope.isFresh ∧ s.root.flags.Le s'.root.flags) := by
  cases hm with
  | stay => exact Or.inl ⟨rfl, id⟩
  | add =>
      refine Or.inl ⟨root_flags_of_top rfl rfl, fun h => ?_⟩
      rw [← h]
      exact root_kind_of_top rfl rfl
  | again =>
      refine Or.inl ⟨root_flags_of_top rfl rfl, fun h => ?_⟩
      rw [← h]
      exact root_kind_of_top rfl rfl
  | part => exact Or.inl root_part
  | close => exact Or.inl ⟨root_close.1, root_close.2.trans⟩
  | @push kind opened flags known =>
      have hroot : (State.mk ⟨kind, opened, flags, [], []⟩
          (s.scope :: s.outer) known).root = s.root := root_push rfl
      rw [hroot]
      exact Or.inl ⟨rfl, id⟩
  | flags houter hfresh =>
      refine Or.inr ⟨houter, hfresh, ?_⟩
      unfold root
      rw [houter]
      exact Flags.le_union_left _ _

/-- The flags of the pattern only grow. -/
theorem root_flags_le (hm : Becomes s s') :
    s.root.flags.Le s'.root.flags := by
  rcases root_of_becomes hm with ⟨h, -⟩ | ⟨-, -, h⟩
  · rw [h]
    exact Flags.le_refl _
  · exact h

/-- After a move something has been read if it had been before. -/
theorem begun_of_becomes (hm : Becomes s s') (hkind : s.root.kind = .pattern)
    (h : s.outer = [] → s.scope.isFresh = false) :
    s'.outer = [] → s'.scope.isFresh = false := by
  cases hm with
  | stay => exact h
  | add => exact fun _ => Bool.and_false _
  | again => exact fun _ => Bool.and_false _
  | part =>
      unfold nextBranch
      split
      · next number hpresent =>
        intro houter
        unfold root at hkind
        rw [show s.outer = [] from houter, List.getLastD_nil, hpresent]
          at hkind
        cases hkind
      · exact fun _ => Bool.false_and _
  | close =>
      unfold State.close
      split
      · exact h
      · exact fun _ => Bool.and_false _
  | push => exact nofun
  | flags houter => exact fun _ => h houter

/-- No move ends the scope of the whole pattern. -/
theorem IsRooted.move {fs : Flags} (h : s.IsRooted fs)
    (hm : Becomes s s') : s'.IsRooted fs := by
  have hbegun := begun_of_becomes hm h.kind h.begun
  rcases root_of_becomes hm with ⟨hflags, hkind⟩ | ⟨houter, hfresh, -⟩
  · exact ⟨hflags.trans h.flags, hkind h.kind, hbegun⟩
  · have hno := h.begun houter
    rw [hfresh] at hno
    cases hno

-- ============================================================= readings

variable {sf : State} {rf : Text}

/-- So all widths are below the cap when the reading ends. -/
theorem isCapped_of_read (hs : s.IsCapped) (h : s.read r = .ok (sf, rf)) :
    sf.IsCapped :=
  of_read (fun _ _ hs hm => hs.move hm) hs h

/-- The flags of the whole pattern only grow. -/
theorem flags_le_of_read (h : s.read r = .ok (sf, rf)) :
    s.root.flags.Le sf.root.flags :=
  of_read (P := fun t => s.root.flags.Le t.root.flags)
    (fun _ _ hs hm => hs.trans (root_flags_le hm)) (Flags.le_refl _) h

/-- What is at the bottom when the reading ends is the whole pattern. -/
theorem isRooted_of_read {fs : Flags} (hs : s.IsRooted fs)
    (h : s.read r = .ok (sf, rf)) : sf.IsRooted fs :=
  of_read (fun _ _ hs hm => hs.move hm) hs h

end State

end Highlight.Regex
