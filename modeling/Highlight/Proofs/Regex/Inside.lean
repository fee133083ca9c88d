/-
A pattern that is read on its own, and the same pattern in a group inside
another one.

Both readings take the same steps: what is read into a scope depends on
the text, on the flags in force and on the groups that are known, and none
of these knows about scopes further out (`Inside.step`). Only the places
in reports differ, and the scope of the whole pattern is that of a group.
When the pattern ends, the parenthesis behind it closes the group, which
hands its content on (`Inside.read`).

# What the group does not stand

Three things set the readings apart. Flags for the whole pattern cannot be
turned on inside a group, a comment that runs up to the end of the pattern
swallows the parenthesis, and a pattern whose scopes are nested as deep as
they may be has no room for another one around them. Each of them shows at
a stop of the reading of the pattern alone (`Passes`), and where none is
met the group is read to its end.
-/
import Highlight.Proofs.Regex.Alongside
import Highlight.Proofs.Regex.Reading

namespace Highlight.Regex

-- ========================================================== vocabulary

/-- The flags are the same, but for the choice of the full alphabet, which
no reader asks for. -/
def Flags.Same (fs gs : Flags) : Prop :=
  { fs with unicode := true } = { gs with unicode := true }

/-- The same has been read into both scopes, under the same flags. -/
structure Scope.Same (a b : Scope) : Prop where
  flags : a.flags.Same b.flags
  branches : b.branches = a.branches
  items : b.items = a.items

/-- The scopes of a pattern on its own, from the innermost one on, and
those of the pattern in a group. -/
inductive Nests (base : Scope) : List Scope → List Scope → Prop
  | whole {a b : Scope} (ha : a.kind = .pattern) (hb : b.kind = .plain false)
    (h : a.Same b) : Nests base [a] [b, base]
  | inner {a b : Scope} {as bs : List Scope} (hk : b.kind = a.kind)
    (h : a.Same b) (hs : Nests base as bs) : Nests base (a :: as) (b :: bs)

/-- The same is known of the groups, but for the places where they were
named. -/
structure Known.Same (k l : Known) : Prop where
  widths : l.widths = k.widths
  names : l.names = k.names
  lookBehind : l.lookBehind = k.lookBehind
  awaited : l.awaited.map Prod.fst = k.awaited.map Prod.fst

/-- The state of a pattern on its own, and its state in a group. -/
structure Inside (base : Scope) (s t : State) : Prop where
  scopes : Nests base (s.scope :: s.outer) (t.scope :: t.outer)
  known : s.known.Same t.known

/-- A reading that stands before the first text comes to stand before the
second one. -/
inductive State.Passes : State → Text → State → Text → Prop
  | here {s : State} {r : Text} : Passes s r s r
  | step {s s' u : State} {r r' q : Text} (h : s.step r = .ok (s', r'))
    (hrest : Passes s' r' u q) : Passes s r u q

/-- Flags for the whole pattern come next. -/
def BeginsFlags (r : Text) : Prop :=
  ∃ (r₀ r' : Text) (on : Flags), r = '(' :: r₀
    ∧ opening r.length r₀ = .ok (.flags on, r')

/-- A comment comes next that no line feed ends. -/
def State.OpensComment (s : State) (r : Text) : Prop :=
  ∃ r₀, r = '#' :: r₀ ∧ s.scope.flags.verbose = true
    ∧ isOpenLine r₀ = true

/-- Nothing comes next that sets a reading in a group apart. -/
structure State.IsFree (s : State) (r : Text) : Prop where
  flags : ¬ BeginsFlags r
  comment : ¬ s.OpensComment r
  room : s.outer.length < State.depthLimit

/-- Both have moved on through the same text; there is no less room for a
scope around them than before. -/
structure Shadows (base : Scope) (s : State) (v w : State × Text) : Prop where
  inside : Inside base v.1 w.1
  room : s.outer.length < State.depthLimit →
    v.1.outer.length < State.depthLimit
  left : w.2 = v.2 ++ [')']
  settled : v.2 ≠ ['\\']

/-- What opening a scope in the group comes to. -/
inductive Opens (base : Scope) (s s' : State) : Except Refusal State → Prop
  | inside {t' : State} (h : Inside base s' t')
    (hroom : s.outer.length < State.depthLimit →
      s'.outer.length < State.depthLimit) : Opens base s s' (.ok t')
  | deep (h : State.depthLimit ≤ s'.outer.length) :
    Opens base s s' (.error .tooDeep)

/-- What a step in the group comes to, by what the step of the pattern
alone has led to. -/
inductive Fares (R : State × Text → State × Text → Prop) (s : State)
    (r : Text) : State × Text → Except Refusal (State × Text) → Prop
  | ahead {v w : State × Text} (h : R v w) (hflags : ¬ BeginsFlags r)
    (hcomment : ¬ s.OpensComment r) : Fares R s r v (.ok w)
  | lost {t : State} (ht : t.outer ≠ []) (h : s.OpensComment r) :
    Fares R s r (s, []) (.ok (t, []))
  | late {v : State × Text} (h : BeginsFlags r) :
    Fares R s r v (refuse .lateFlags (r.length + 1))
  | deep {v : State × Text} (h : State.depthLimit ≤ v.1.outer.length) :
    Fares R s r v (.error .tooDeep)

/-- What a reading in the group comes to, by what the pattern alone has
become. -/
inductive Ends (base : Scope) (s : State) (r : Text) (sf : State) :
    Except Refusal (State × Text) → Prop
  | whole {tf : State} (houter : tf.outer = [])
    (hscope : tf.scope = base.add (.spliced sf.scope.content))
    (hknown : sf.known.Same tf.known)
    (hfree : ∀ u q, s.Passes r u q → u.IsFree q) :
    Ends base s r sf (.ok (tf, []))
  | lost {tf u : State} {q : Text} (htf : tf.outer ≠ [])
    (h : s.Passes r u q) (hu : u.OpensComment q) :
    Ends base s r sf (.ok (tf, []))
  | late {u : State} {q : Text} (h : s.Passes r u q) (hq : BeginsFlags q) :
    Ends base s r sf (refuse .lateFlags (q.length + 1))
  | deep {u : State} {q : Text} (h : s.Passes r u q)
    (hu : State.depthLimit ≤ u.outer.length) :
    Ends base s r sf (.error .tooDeep)

variable {base a b : Scope} {as bs : List Scope} {s s' t : State}
  {k l : Known} {r r' : Text} {fs gs : Flags}

/-- A group of flags begins with a parenthesis. -/
theorem not_beginsFlags {c : Char} (hc : c ≠ '(') :
    ¬ BeginsFlags (c :: r) := by
  rintro ⟨_, _, _, heq, -⟩
  exact hc (List.cons.inj heq).1

/-- A comment begins with a hash sign. -/
theorem State.not_opensComment {c : Char} (hc : c ≠ '#') :
    ¬ s.OpensComment (c :: r) := by
  rintro ⟨_, heq, -⟩
  exact hc (List.cons.inj heq).1

-- =============================================================== flags

namespace Flags.Same

/-- All flags agree but those that say how the text is encoded. -/
theorem eqs (h : fs.Same gs) :
    gs.ascii = fs.ascii ∧ gs.ignoreCase = fs.ignoreCase
      ∧ gs.multiLine = fs.multiLine ∧ gs.dotAll = fs.dotAll
      ∧ gs.verbose = fs.verbose := by
  unfold Flags.Same at h
  rw [Flags.mk.injEq] at h
  obtain ⟨ha, hi, -, hm, hd, -, hv, -⟩ := h
  exact ⟨ha.symm, hi.symm, hm.symm, hd.symm, hv.symm⟩

/-- So the same letters count as equal. -/
theorem fold_eq (h : fs.Same gs) : gs.fold = fs.fold := by
  unfold Flags.fold
  rw [h.eqs.1, h.eqs.2.1]

/-- Flags that a group changes are changed alike. -/
theorem within (h : fs.Same gs) (on off : Flags) :
    (fs.within on off).Same (gs.within on off) := by
  unfold Flags.Same at *
  rw [Flags.mk.injEq] at h ⊢
  obtain ⟨ha, hi, hl, hm, hd, -, hv, ht⟩ := h
  unfold Flags.within
  split <;> simp [Flags.union, Flags.minus, ha, hi, hl, hm, hd, hv, ht]

end Flags.Same

-- ============================================================== scopes

namespace Scope.Same

theorem branch_eq (h : a.Same b) : b.branch = a.branch := by
  unfold Scope.branch
  rw [h.items]

/-- Two scopes with the same items become the same nodes. -/
theorem content_eq (h : a.Same b) : b.content = a.content := by
  unfold Scope.content
  rw [h.branch_eq, h.branches, h.flags.fold_eq, h.flags.eqs.1]

/-- An item is added to both scopes. -/
theorem add (h : a.Same b) (i : Item) : (a.add i).Same (b.add i) :=
  ⟨h.flags, h.branches, congrArg (i :: ·) h.items⟩

end Scope.Same

namespace Nests

/-- The innermost scopes correspond. -/
theorem top (h : Nests base (a :: as) (b :: bs)) : a.Same b := by
  cases h with
  | whole _ _ h => exact h
  | inner _ h _ => exact h

/-- More has been read into the innermost scope. -/
theorem replace {a' b' : Scope} (h : Nests base (a :: as) (b :: bs))
    (ha : a'.kind = a.kind) (hb : b'.kind = b.kind) (hab : a'.Same b') :
    Nests base (a' :: as) (b' :: bs) := by
  cases h with
  | whole hka hkb _ => exact .whole (ha.trans hka) (hb.trans hkb) hab
  | inner hk _ hs =>
      refine .inner ?_ hab hs
      rw [ha, hb, hk]

/-- Either this is the scope of the whole pattern, or both are of one kind
and lie in scopes that are nested in the same way. -/
theorem whole_or_inner (h : Nests base (a :: as) (b :: bs)) :
    (as = [] ∧ bs = [base] ∧ a.kind = .pattern ∧ b.kind = .plain false)
      ∨ (b.kind = a.kind ∧ Nests base as bs) := by
  cases h with
  | whole ha hb _ => exact Or.inl ⟨rfl, rfl, ha, hb⟩
  | inner hk _ hs => exact Or.inr ⟨hk, hs⟩

/-- There is at least one scope on either side. -/
theorem exists_cons (h : Nests base as bs) :
    ∃ a as' b bs', as = a :: as' ∧ bs = b :: bs' := by
  cases h with
  | whole => exact ⟨_, _, _, _, rfl, rfl⟩
  | inner => exact ⟨_, _, _, _, rfl, rfl⟩

/-- The group around everything is one scope more. -/
theorem length_eq (h : Nests base as bs) : bs.length = as.length + 1 := by
  induction h with
  | whole => rfl
  | inner _ _ _ ih => exact congrArg Nat.succ ih

/-- The group around everything is still open. -/
theorem ne_nil (h : Nests base (a :: as) (b :: bs)) : bs ≠ [] := by
  rcases h.whole_or_inner with ⟨-, rfl, -⟩ | ⟨-, h⟩
  · exact List.cons_ne_nil _ _
  · obtain ⟨_, _, _, _, -, rfl⟩ := h.exists_cons
    exact List.cons_ne_nil _ _

end Nests

-- =============================================================== known

namespace Known.Same

/-- The widths of all groups are known alike. -/
theorem width?_eq (h : k.Same l) (number : Nat) :
    l.width? number = k.width? number := by
  unfold Known.width?
  rw [h.widths]

theorem count_eq (h : k.Same l) : l.count = k.count := by
  unfold Known.count
  rw [h.widths]

/-- A group begins under the same number. Only the place in a report of a
taken name may differ. -/
theorem begin (h : k.Same l) (name : Option Text) (p p' : Nat) :
    Carries Known.Same (k.begin name p) (l.begin name p') := by
  unfold Known.begin
  dsimp only
  rw [h.count_eq, h.widths, h.names]
  split
  · exact .ok ⟨rfl, rfl, h.lookBehind, h.awaited⟩
  · split
    · exact .refuse
    · exact .ok ⟨rfl, rfl, h.lookBehind, h.awaited⟩

/-- A check turns out alike, wherever it is reported. -/
theorem checkLookBehind (h : k.Same l) (number p p' : Nat) :
    Carries (· = ·) (k.checkLookBehind number p)
      (l.checkLookBehind number p') := by
  unfold Known.checkLookBehind
  rw [h.lookBehind, h.width?_eq]
  split
  · exact .ok rfl
  · split
    · exact .refuse
    · split
      · exact .refuse
      · exact .ok rfl

/-- A group is awaited in both readings or in none. -/
theorem lookup_isSome (h : k.Same l) (number : Nat) :
    (l.awaited.lookup number).isSome = (k.awaited.lookup number).isSome := by
  have hmem : ∀ es : List (Nat × Nat),
      (es.lookup number).isSome = (es.map Prod.fst).contains number := by
    intro es
    induction es with
    | nil => rfl
    | cons e es ih =>
        rw [List.lookup_cons, List.map_cons, List.contains_cons, ← ih]
        cases number == e.1 <;> rfl
  rw [hmem, hmem, h.awaited]

/-- A condition names the same group. -/
theorem conditionGroup (h : k.Same l) (written : Text) (p p' : Nat) :
    Carries (fun v w => w.1 = v.1 ∧ v.2.Same w.2)
      (k.conditionGroup written p) (l.conditionGroup written p') := by
  unfold Known.conditionGroup
  dsimp only
  rw [h.names]
  split
  · split
    · exact .ok ⟨rfl, h⟩
    · exact .refuse
  · split
    · exact .refuse
    · split
      · exact .refuse
      · split
        · exact .refuse
        · rw [h.lookup_isSome]
          split
          · exact .ok ⟨rfl, h⟩
          · refine .ok ⟨rfl, h.widths, rfl, h.lookBehind, ?_⟩
            rw [List.map_append, List.map_append, h.awaited]
            rfl

end Known.Same

-- ============================================================= readings

namespace State

/-- A reading that does not end here goes on with a step. -/
theorem exists_step_of_read {sf : State} {rf : Text} (hr : r ≠ [])
    (hend : r.head? = some ')' → s.outer ≠ [])
    (h : s.read r = .ok (sf, rf)) :
    ∃ s' r', s.step r = .ok (s', r') ∧ r'.length < r.length
      ∧ s'.read r' = .ok (sf, rf) := by
  rw [read_eq_bind hr hend] at h
  obtain ⟨⟨s', r'⟩, hstep, h⟩ := exists_of_bind h
  exact ⟨s', r', hstep, s.yields_step hr _ hstep, h⟩

/-- A finished reading does not stop at a parenthesis. -/
theorem outer_ne_nil_of_read {sf : State} (hr : r ≠ [])
    (h : s.read r = .ok (sf, [])) : r.head? = some ')' → s.outer ≠ [] := by
  intro hhead houter
  rw [read, dif_pos (Or.inr ⟨hhead, houter⟩)] at h
  cases h
  exact hr rfl

/-- What is passed is the state itself or lies behind its step. -/
theorem Passes.eq_or_of_step {u : State} {q : Text}
    (h : s.Passes r u q) (hstep : s.step r = .ok (s', r')) :
    (u = s ∧ q = r) ∨ s'.Passes r' u q := by
  cases h with
  | here => exact Or.inl ⟨rfl, rfl⟩
  | step hstep' hrest =>
      cases hstep.symm.trans hstep'
      exact Or.inr hrest

/-- No place that is passed lies before the first. -/
theorem Passes.length_le {u : State} {q : Text} (h : s.Passes r u q) :
    q.length ≤ r.length := by
  induction h with
  | here => exact Nat.le_refl _
  | @step s s' u r r' q hstep _ ih =>
      by_cases hr : r = []
      · subst hr
        cases hstep
        exact ih
      · exact Nat.le_trans ih (Nat.le_of_lt (s.yields_step hr _ hstep))

/-- At the end of the text there is nothing left to pass. -/
theorem Passes.of_nil {u : State} {q : Text} (h : s.Passes [] u q) :
    u = s ∧ q = [] := by
  generalize hr : ([] : Text) = r at h
  induction h with
  | here =>
      subst hr
      exact ⟨rfl, rfl⟩
  | step hstep _ ih =>
      subst hr
      cases hstep
      exact ih rfl

/-- At the end of the text only room is asked for. -/
theorem isFree_nil (h : s.outer.length < depthLimit) : s.IsFree [] where
  flags := fun ⟨_, _, _, heq, _⟩ => nomatch heq
  comment := fun ⟨_, heq, _⟩ => nomatch heq
  room := h

/-- The parenthesis at the end closes the innermost scope. -/
theorem step_parenthesis (s : State) : s.step [')'] = .ok (s.close, []) := by
  unfold step
  rw [if_neg fun h => by cases h.1]
  show (if s.scope.flags.verbose && isSpace ')' then _
    else if s.scope.flags.verbose && (')' == '#') then _ else _) = _
  rw [show isSpace ')' = false by decide, Bool.and_false,
    show (')' == '#') = false by decide, Bool.and_false]
  rfl

/-- The bar in a condition keeps the first branch apart. -/
theorem nextBranch_of_present {number : Nat}
    (h : s.scope.kind = .present number) :
    s.nextBranch = { s with scope := { s.scope with
      kind := .absent number (.ofList s.scope.branch), items := [] } } := by
  unfold nextBranch
  rw [h]

/-- Every other bar ends an alternative. -/
theorem nextBranch_of_ne (h : ∀ number, s.scope.kind ≠ .present number) :
    s.nextBranch = { s with scope := { s.scope with
      branches := s.scope.branch :: s.scope.branches, items := [] } } := by
  unfold nextBranch
  split
  · next number hkind => exact absurd hkind (h number)
  · rfl

theorem outer_nextBranch (s : State) : s.nextBranch.outer = s.outer := by
  unfold nextBranch
  split <;> rfl

/-- Closing a scope makes room. -/
theorem length_outer_close (s : State) :
    s.close.outer.length ≤ s.outer.length := by
  unfold close
  split
  · exact Nat.le_refl _
  · next h =>
    rw [h]
    exact Nat.le_succ _

/-- What a parenthesis opens is the same in a group; flags for the whole
pattern are refused there. -/
theorem stepOpening_cases {P : State × Text → Except Refusal (State × Text)
    → Prop} (ht : t.outer ≠ []) (hr : r ≠ ['\\'])
    (hlate : ∀ v, BeginsFlags ('(' :: r) →
      P v (refuse .lateFlags (r.length + 2)))
    (hother : ¬ BeginsFlags ('(' :: r) → ∀ o r₁, (∀ on, o ≠ .flags on) →
      r₁ ≠ ['\\'] →
      Yields (s.opened o (r.length + 1) r₁.length >>= fun s => .ok (s, r₁))
        fun v => P v (t.opened o (r.length + 2) (r₁ ++ [')']).length
          >>= fun t => .ok (t, r₁ ++ [')']))) :
    Yields (s.stepPlain '(' (r.length + 1) r)
      fun v => P v (t.stepPlain '(' (r.length + 2) (r ++ [')'])) := by
  intro v hv
  obtain ⟨⟨o, r₁⟩, hopening, hv⟩ := exists_of_bind hv
  obtain ⟨⟨_, _⟩, hopening', heq, hleft, hr₁⟩ :=
    carries_opening (r.length + 1) (r.length + 2) hr _ hopening
  cases heq
  cases hleft
  show P v (opening (r.length + 2) (r ++ [')']) >>= fun v =>
      t.opened v.1 (r.length + 2) v.2.length >>= fun t => .ok (t, v.2))
  rw [hopening']
  show P v (t.opened o (r.length + 2) (r₁ ++ [')']).length
      >>= fun t => .ok (t, r₁ ++ [')']))
  by_cases hflags : ∃ on, o = .flags on
  · obtain ⟨on, rfl⟩ := hflags
    have hrefuse : t.opened (.flags on) (r.length + 2) (r₁ ++ [')']).length
        = refuse .lateFlags (r.length + 2) :=
      if_neg fun h => ht (List.isEmpty_iff.1 (Bool.and_eq_true _ _ ▸ h).1)
    rw [hrefuse]
    exact hlate v ⟨r, r₁, on, rfl, hopening⟩
  · have hbegins : ¬ BeginsFlags ('(' :: r) := by
      rintro ⟨_, _, on, heq, hon⟩
      cases heq
      cases hopening.symm.trans hon
      exact hflags ⟨on, rfl⟩
    exact hother hbegins o r₁ (not_exists.1 hflags) hr₁ v hv

/-- Scopes of one kind with the same content leave the same behind. -/
theorem closed_same (hk : b.kind = a.kind) (hab : a.Same b)
    (hkl : k.Same l) :
    (closed b l).1 = (closed a k).1
      ∧ (closed a k).2.Same (closed b l).2 := by
  unfold closed
  dsimp only
  rw [hk, hab.content_eq]
  split
  · exact ⟨rfl, hkl⟩
  · exact ⟨rfl, hkl⟩
  · exact ⟨rfl, hkl⟩
  · refine ⟨rfl, ?_, hkl.names, hkl.lookBehind, hkl.awaited⟩
    show l.widths.set _ _ = k.widths.set _ _
    rw [hkl.widths]
  · exact ⟨rfl, hkl⟩
  · refine ⟨rfl, ?_⟩
    dsimp only
    split
    · exact ⟨hkl.widths, hkl.names, rfl, hkl.awaited⟩
    · exact hkl
  · exact ⟨rfl, hkl⟩
  · exact ⟨rfl, hkl⟩

end State

/-- What comes of the rest comes of the whole, behind a step. -/
theorem Ends.of_step {sf : State} {x : Except Refusal (State × Text)}
    (h : Ends base s' r' sf x) (hstep : s.step r = .ok (s', r'))
    (hfree : s.IsFree r) : Ends base s r sf x := by
  cases h with
  | whole houter hscope hknown hfree' =>
      refine .whole houter hscope hknown fun u q hpasses => ?_
      rcases hpasses.eq_or_of_step hstep with ⟨rfl, rfl⟩ | hpasses
      · exact hfree
      · exact hfree' u q hpasses
  | lost houter hpasses hopens =>
      exact .lost houter (.step hstep hpasses) hopens
  | late hpasses hflags => exact .late (.step hstep hpasses) hflags
  | deep hpasses hdeep => exact .deep (.step hstep hpasses) hdeep

-- =============================================================== moves

namespace Inside

/-- The flags in force agree. -/
theorem flags (h : Inside base s t) : s.scope.flags.Same t.scope.flags :=
  h.scopes.top.flags

/-- So letters are compared alike. -/
theorem fold_eq (h : Inside base s t) :
    t.scope.flags.fold = s.scope.flags.fold := h.flags.fold_eq

/-- The further reading always has a scope around it. -/
theorem outer_ne_nil (h : Inside base s t) : t.outer ≠ [] := h.scopes.ne_nil

/-- An item is added on both sides. -/
theorem add (h : Inside base s t) (i : Item) :
    Inside base (s.add i) (t.add i) :=
  ⟨h.scopes.replace rfl rfl (h.scopes.top.add i), h.known⟩

/-- The group makes one scope more. -/
theorem length_outer (h : Inside base s t) :
    t.outer.length = s.outer.length + 1 :=
  Nat.succ.inj h.scopes.length_eq

/-- What both add is a move. -/
theorem moves_add (h : Inside base s t) (i : Item) (hr : r ≠ ['\\']) :
    Shadows base s (s.add i, r) (t.add i, r ++ [')']) :=
  ⟨h.add i, id, rfl, hr⟩

/-- An alternative ends on both sides. -/
theorem nextBranch (h : Inside base s t) :
    Inside base s.nextBranch t.nextBranch := by
  have hsame := h.scopes.top
  have hbranches : s.scope.branch :: s.scope.branches
      = t.scope.branch :: t.scope.branches := by
    rw [hsame.branch_eq, hsame.branches]
  rcases h.scopes.whole_or_inner with ⟨houter, houter', ha, hb⟩ | ⟨hk, hs⟩
  · rw [State.nextBranch_of_ne fun _ => by rw [ha]; nofun,
      State.nextBranch_of_ne fun _ => by rw [hb]; nofun]
    exact ⟨h.scopes.replace rfl rfl ⟨hsame.flags, hbranches.symm, rfl⟩,
      h.known⟩
  · cases hkind : s.scope.kind with
    | present number =>
        rw [State.nextBranch_of_present hkind,
          State.nextBranch_of_present (hk.trans hkind)]
        refine ⟨.inner ?_ ⟨hsame.flags, hsame.branches, rfl⟩ hs, h.known⟩
        exact congrArg (ScopeKind.absent number ∘ Node.ofList)
          hsame.branch_eq
    | _ =>
        rw [State.nextBranch_of_ne fun _ => by rw [hkind]; nofun,
          State.nextBranch_of_ne fun _ => by rw [hk, hkind]; nofun]
        exact ⟨.inner hk ⟨hsame.flags, hbranches.symm, rfl⟩ hs, h.known⟩

/-- A scope that the reading itself has opened is closed on both sides.
Only the group around everything is not. -/
theorem close (h : Inside base s t) (hs : s.outer ≠ []) :
    Inside base s.close t.close := by
  rcases h.scopes.whole_or_inner with ⟨houter, -⟩ | ⟨hk, hrest⟩
  · exact absurd houter hs
  · obtain ⟨hitem, hknown⟩ := State.closed_same hk h.scopes.top h.known
    obtain ⟨a, as, b, bs, has, hbs⟩ := hrest.exists_cons
    rw [has, hbs] at hrest
    unfold State.close
    rw [has, hbs]
    dsimp only
    rw [hitem]
    exact ⟨hrest.replace rfl rfl (hrest.top.add _), hknown⟩

/-- A scope is opened in the group as well, unless there is no room. -/
theorem push (h : Inside base s t) {k l : Known} (hk : k.Same l)
    (kind : ScopeKind) (o o' : Nat) (hfs : fs.Same gs) :
    Yields (State.push { s with known := k } kind o fs)
      fun s' => Opens base s s'
        (State.push { t with known := l } kind o' gs) := by
  unfold State.push
  dsimp only
  split
  · exact .error
  · split
    · next hdeep =>
      exact .ok (.deep (Nat.le_trans hdeep (Nat.le_of_eq h.length_outer)))
    · next hroom =>
      rw [h.length_outer, Nat.not_le] at hroom
      exact .ok (.inside ⟨.inner rfl ⟨hfs, rfl, rfl⟩ h.scopes, hk⟩
        fun _ => hroom)

/-- An escape adds the same item, or both readings refuse it. -/
theorem addEscaped (h : Inside base s t) (e : Escaped) (p p' q q' : Nat) :
    Carries (fun s' t' => Inside base s' t' ∧ s'.outer = s.outer)
      (s.addEscaped e p q) (t.addEscaped e p' q') := by
  unfold State.addEscaped
  dsimp only
  rw [h.fold_eq, h.flags.eqs.1]
  split
  · exact .ok ⟨h.add _, rfl⟩
  · exact .ok ⟨h.add _, rfl⟩
  · exact .ok ⟨h.add _, rfl⟩
  · next number =>
    rw [h.known.count_eq, h.known.width?_eq]
    split
    · exact .refuse
    · split
      · exact .refuse
      · exact (h.known.checkLookBehind _ _ _).bind
          fun _ _ _ => .ok ⟨h.add _, rfl⟩

/-- A reference by name adds the same item. -/
theorem addReference (h : Inside base s t) (name : Text) (p p' : Nat) :
    Carries (fun s' t' => Inside base s' t' ∧ s'.outer = s.outer)
      (s.addReference name p) (t.addReference name p') := by
  unfold State.addReference
  dsimp only
  rw [h.fold_eq, h.known.names]
  split
  · exact .refuse
  · next number _ =>
    rw [h.known.width?_eq]
    split
    · exact .refuse
    · exact (h.known.checkLookBehind _ _ _).bind
        fun _ _ _ => .ok ⟨h.add _, rfl⟩

/-- What is opened is opened in the group, but for flags. -/
theorem opened (h : Inside base s t) {o : Opening}
    (ho : ∀ on, o ≠ .flags on) (p p' q q' : Nat) :
    Yields (s.opened o p q) fun s' => Opens base s s' (t.opened o p' q')
      := by
  unfold State.opened
  dsimp only
  split
  · refine (h.known.begin _ _ _).andYields fun k l hk => ?_
    rw [hk.count_eq]
    exact h.push hk _ _ _ h.flags
  · exact h.push h.known _ _ _ (h.flags.within _ _)
  · exact h.push h.known _ _ _ h.flags
  · rw [h.known.lookBehind]
    refine h.push ?_ _ _ _ h.flags
    split
    · rw [h.known.count_eq]
      exact ⟨h.known.widths, h.known.names, rfl, h.known.awaited⟩
    · exact h.known
  · refine (h.known.conditionGroup _ _ _).andYields fun v w hvw => ?_
    obtain ⟨number, k⟩ := v
    obtain ⟨number', l⟩ := w
    obtain ⟨heq, hk⟩ := hvw
    cases heq
    exact (hk.checkLookBehind _ _ _).andYields
      fun _ _ _ => h.push hk _ _ _ h.flags
  · intro s' hs'
    obtain ⟨t', ht', hinside, houter⟩ := h.addReference _ _ _ s' hs'
    rw [ht']
    exact .inside hinside fun hroom => houter ▸ hroom
  · exact .ok (.inside h id)
  · next on => exact absurd rfl (ho on)

/-- The same item is there to be repeated. -/
theorem repeatable (h : Inside base s t) (p p' : Nat) :
    Carries (· = ·) (s.repeatable p) (t.repeatable p') := by
  unfold State.repeatable
  rw [h.scopes.top.items]
  split
  · exact .refuse
  · exact .refuse
  · exact .refuse
  · exact .ok rfl

/-- The last item is repeated alike, and the same text is read. -/
theorem addRepeat (h : Inside base s t) (sign : Char) (hr : r ≠ ['\\']) :
    Carries (Shadows base s) (s.addRepeat sign r)
      (t.addRepeat sign (r ++ [')'])) := by
  refine (State.carries_quantifier? sign hr).andThen fun q r₁ h₁ => ?_
  rcases q with _ | ⟨least, most⟩
  · dsimp only
    rw [h.fold_eq]
    exact .ok (h.moves_add _ h₁)
  · refine (h.repeatable _ _).bind fun v w hvw => ?_
    subst hvw
    obtain ⟨n, items⟩ := v
    refine (State.carries_appetite h₁).andThen fun a r₂ h₂ => .ok ?_
    exact ⟨⟨h.scopes.replace rfl rfl
      ⟨h.flags, h.scopes.top.branches, rfl⟩, h.known⟩, id, rfl, h₂⟩

/-- A character other than an opening parenthesis is read alike. -/
theorem stepPlain (h : Inside base s t) {c : Char} (hopen : c ≠ '(')
    (o o' : Nat) (hr : r ≠ ['\\']) (hclose : c = ')' → s.outer ≠ []) :
    Carries (Shadows base s) (s.stepPlain c o r)
      (t.stepPlain c o' (r ++ [')'])) := by
  have hflags := h.flags.eqs
  unfold State.stepPlain
  dsimp only
  rw [h.fold_eq, hflags.1, hflags.2.2.1, hflags.2.2.2.1]
  split
  · exact .ok ⟨h.nextBranch, fun hs => s.outer_nextBranch ▸ hs, rfl, hr⟩
  · exact .ok ⟨h.close (hclose rfl),
      fun hs => Nat.lt_of_le_of_lt s.length_outer_close hs, rfl, hr⟩
  · exact (carries_bracketed _ _ _ _ hr).andThen
      fun set r hr => .ok (h.moves_add _ hr)
  · exact absurd rfl hopen
  · exact h.addRepeat _ hr
  · exact h.addRepeat _ hr
  · exact h.addRepeat _ hr
  · exact h.addRepeat _ hr
  · exact .ok (h.moves_add _ hr)
  · exact .ok (h.moves_add _ hr)
  · exact .ok (h.moves_add _ hr)
  · exact .ok (h.moves_add _ hr)

/-- What a parenthesis opens is opened in the group, but for flags. -/
theorem stepOpening (h : Inside base s t) (hr : r ≠ ['\\']) :
    Yields (s.stepPlain '(' (r.length + 1) r)
      fun v => Fares (Shadows base s) s ('(' :: r) v
        (t.stepPlain '(' (r.length + 2) (r ++ [')'])) := by
  refine State.stepOpening_cases h.outer_ne_nil hr (fun _ => .late)
    fun hflags o r₁ ho hr₁ => ?_
  intro v hv
  obtain ⟨s', hs', hv⟩ := exists_of_bind hv
  cases hv
  have hopens := h.opened ho _ (r.length + 2) _ (r₁ ++ [')']).length s' hs'
  generalize t.opened o (r.length + 2) (r₁ ++ [')']).length = x at hopens
  cases hopens with
  | inside hinside hroom =>
      exact .ahead ⟨hinside, hroom, rfl, hr₁⟩ hflags
        (State.not_opensComment (by decide))
  | deep hdeep => exact .deep hdeep

theorem hasBothBranches_eq (h : Inside base s t) :
    t.hasBothBranches = s.hasBothBranches := by
  unfold State.hasBothBranches
  rcases h.scopes.whole_or_inner with ⟨-, -, ha, hb⟩ | ⟨hk, -⟩
  · rw [ha, hb]
  · rw [hk]

/-- Whatever a step of the pattern alone leads to, the step in the group is
alike, or it stops for one of the three reasons. -/
theorem step (h : Inside base s t) (hne : r ≠ []) (hr : r ≠ ['\\'])
    (hclose : r.head? = some ')' → s.outer ≠ []) :
    Yields (s.step r)
      fun v => Fares (Shadows base s) s r v (t.step (r ++ [')'])) := by
  obtain ⟨c, r, rfl⟩ := List.exists_cons_of_ne_nil hne
  have hflags := h.flags.eqs
  unfold State.step
  rw [h.hasBothBranches_eq]
  have hhead : (c :: r ++ [')']).head? = (c :: r).head? := rfl
  have hlength : (c :: r ++ [')']).length = r.length + 2 := by simp
  rw [hhead, hlength]
  by_cases hbar : (c :: r).head? = some '|' ∧ s.hasBothBranches
  · rw [if_pos hbar]
    exact .refuse
  rw [if_neg hbar, if_neg hbar]
  refine andYields_lexeme? (P := Fares (Shadows base s) s (c :: r)) hr
    (fun hr₁ => ?_) fun hc d r₁ hr₁ => ?_
  · dsimp only
    rw [hflags.2.2.2.2]
    split
    · next hspace =>
      rw [Bool.and_eq_true] at hspace
      refine .ok (.ahead ⟨h, id, rfl, hr₁⟩ (not_beginsFlags ?_)
        (State.not_opensComment ?_))
      · rintro rfl
        exact absurd hspace.2 (by decide)
      · rintro rfl
        exact absurd hspace.2 (by decide)
    · split
      · next hhash =>
        rw [Bool.and_eq_true, beq_iff_eq] at hhash
        obtain ⟨hverbose, rfl⟩ := hhash
        refine (carries_skipLine hr₁).andYields fun v w hvw => .ok ?_
        -- A comment that no line feed ends takes the last parenthesis with
        -- it.
        rcases hvw with ⟨hopen, rfl, rfl⟩ | ⟨hopen, rfl, hne⟩
        · exact .lost h.outer_ne_nil ⟨r, rfl, hverbose, hopen⟩
        · refine .ahead ⟨h, id, rfl, hne⟩ (not_beginsFlags (by decide)) ?_
          rintro ⟨_, heq, -, hopen'⟩
          cases heq
          cases hopen.symm.trans hopen'
      · next hhash =>
        -- Only a parenthesis can begin flags, and only a hash sign a
        -- comment.
        by_cases hparen : c = '('
        · subst hparen
          exact h.stepOpening hr₁
        · intro v hv
          obtain ⟨w, hw, hmoves⟩ := h.stepPlain hparen _ (r.length + 2) hr₁
            (fun hc => hclose (congrArg some hc)) v hv
          rw [hw]
          refine .ahead hmoves (not_beginsFlags hparen) ?_
          rintro ⟨_, heq, hverbose, -⟩
          cases heq
          rw [hverbose] at hhash
          exact hhash rfl
  · subst hc
    dsimp only
    rw [hflags.1]
    refine (carries_escape _ _ hr₁).thenYields fun e r₂ hr₂ => ?_
    refine (h.addEscaped _ _ _ _ _).andYields fun s' t' h' => .ok ?_
    exact .ahead ⟨h'.1, fun hroom => h'.2 ▸ hroom, rfl, hr₂⟩
      (not_beginsFlags (by decide)) (State.not_opensComment (by decide))

/-- At the end of the pattern the parenthesis closes the group. -/
theorem close_whole (h : Inside base s t) (hs : s.outer = []) :
    t.close.outer = []
      ∧ t.close.scope = base.add (.spliced s.scope.content)
      ∧ s.known.Same t.close.known := by
  rcases h.scopes.whole_or_inner with ⟨-, houter, -, hkind⟩ | ⟨-, hrest⟩
  · unfold State.close State.closed
    rw [houter, hkind]
    dsimp only
    rw [h.scopes.top.content_eq]
    exact ⟨rfl, rfl, h.known⟩
  · obtain ⟨_, _, _, _, has, -⟩ := hrest.exists_cons
    rw [hs] at has
    cases has

/-- A pattern that is read to its end is read to its end in the group, or
a stop on the way shows why not. -/
theorem read {sf : State} (h : Inside base s t) (hr : r ≠ ['\\'])
    (hs : s.read r = .ok (sf, [])) (hsf : sf.outer = [])
    (hroom : s.outer.length < State.depthLimit) :
    Ends base s r sf (t.read (r ++ [')'])) := by
  induction hn : r.length using Nat.strongRecOn generalizing s t r with
  | ind n ih =>
      rw [State.read_eq_bind
        (List.append_ne_nil_of_right_ne_nil r (List.cons_ne_nil ')' []))
        fun _ => h.outer_ne_nil]
      by_cases hne : r = []
      · subst hne
        rw [State.read_nil] at hs
        cases hs
        obtain ⟨houter, hscope, hknown⟩ := h.close_whole hsf
        show Ends _ _ _ _ (t.step [')'] >>= _)
        rw [State.step_parenthesis]
        show Ends _ _ _ _ (t.close.read [])
        rw [State.read_nil]
        refine .whole houter hscope hknown fun u q hpasses => ?_
        obtain ⟨rfl, rfl⟩ := hpasses.of_nil
        exact State.isFree_nil hroom
      have hclose := State.outer_ne_nil_of_read hne hs
      obtain ⟨s', r', hstep, hlt, hread⟩ :=
        State.exists_step_of_read hne hclose hs
      -- The step in the group keeps up, or the reading stops with it.
      have hfares := h.step hne hr hclose _ hstep
      generalize t.step (r ++ [')']) = x at hfares
      cases hfares with
      | @ahead _ w hmoves hflags hcomment =>
          obtain ⟨t', r''⟩ := w
          obtain ⟨hinside, hroom', hleft, hr'⟩ := hmoves
          cases hleft
          exact (ih _ (hn ▸ hlt) hinside hr' hread (hroom' hroom) rfl).of_step
            hstep ⟨hflags, hcomment, hroom⟩
      | @lost t' houter hopens =>
          show Ends _ _ _ _ (t'.read [])
          rw [State.read_nil]
          exact .lost houter .here hopens
      | late hflags => exact .late .here hflags
      | deep hdeep => exact .deep (.step hstep .here) hdeep

end Inside

end Highlight.Regex
