/-
Which tables describe a language, and what is said of the others.

A table describes a language if every entry of it has the right form and
every rule of it compiles (`Spec.IsSound`, `Spec.DescribesRule`). All other
tables are blamed: the language itself for its own entries, and for its
rules the first one that is at fault, by its number.

# What the language is not blamed for

The compiler of patterns refuses most patterns for a fault in their text.
But flags that exclude each other, counts that are too big and look-behinds
that reach too far are refused in another way, and so is what is nested
too deep. Such a refusal is no fault of the language; it comes out as it
is, and only if nothing before it was at fault (`Spec.Overtaxes`).
-/
import Highlight.Language.Table
import Highlight.Proofs.Checked

namespace Highlight.Spec

open Config (Table Value)
open Regex (Flags Rejection)

-- ========================================================== vocabulary

/-- The key is missing, or its value has the property. -/
def Holds (t : Table) (key : String) (P : Value → Prop) : Prop :=
  ∀ v, t.lookup key = some v → P v

/-- A text that is not empty. -/
def IsWord (v : Value) : Prop := ∃ s, v = .string s ∧ s ≠ ""

/-- A list of texts of which none is empty. -/
def AreWords (v : Value) : Prop := ∃ vs, v = .list vs ∧ ∀ w ∈ vs, IsWord w

/-- The value is true or false. -/
def IsTruth (v : Value) : Prop := ∃ b, v = .bool b

/-- Everything but the single rules has the right form. -/
structure IsSound (t : Table) : Prop where
  known : ∀ e ∈ t, e.1 ∈ keys
  keywords : Holds t "keywords" fun v => v = .null ∨ AreWords v
  constants : Holds t "constants" fun v => v = .null ∨ AreWords v
  builtins : Holds t "builtins" fun v => v = .null ∨ AreWords v
  doubleString : Holds t "double_string" IsTruth
  singleString : Holds t "single_string" IsTruth
  delimiter : Holds t "comment_delimiter" fun v => v = .null ∨ IsWord v
  rules : Holds t "rules" fun v => ∃ vs, v = .list vs

/-- The values that stand for rules, in their order. -/
def entries (t : Table) : List Value :=
  match t.lookup "rules" with
  | some (.list vs) => vs
  | _ => []

/-- The values that stand for the patterns of a rule, in their order: one
pattern, or a start and an end. -/
def patterns? (t : Table) : Option (List Value) :=
  match t.lookup "pattern", t.lookup "start", t.lookup "end" with
  | some p, none, none => some [p]
  | none, some s, some e => some [s, e]
  | _, _, _ => none

/-- Everything but the patterns of a rule has the right form. -/
structure IsSoundRule (t : Table) (ps : List Value) : Prop where
  known : ∀ e ∈ t, e.1 ∈ ruleKeys
  label : Holds t "class" fun v => v = .null ∨ IsWord v
  ignoreCase : Holds t "ignore_case" IsTruth
  patterns : patterns? t = some ps

/-- The flags that a rule asks for. -/
def ruleFlags (t : Table) : Flags where
  ignoreCase :=
    match t.lookup "ignore_case" with
    | some (.bool b) => b
    | _ => false

/-- The value is a pattern under the flags. -/
def Compiles (fs : Flags) (v : Value) : Prop :=
  ∃ s p, v = .string s ∧ s ≠ "" ∧ Pattern.compile s.toList fs = .ok p

/-- The value is a text that the compiler of patterns refuses for other
reasons than a fault in it. -/
def Escapes (fs : Flags) (v : Value) (r : Rejection) : Prop :=
  (∃ s, v = .string s ∧ s ≠ "" ∧ Pattern.compile s.toList fs = .error r)
    ∧ ∀ f place, r ≠ .fault f place

/-- The value describes a rule. -/
def DescribesRule (v : Value) : Prop :=
  ∃ t ps, v = .table t ∧ IsSoundRule t ps
    ∧ ∀ p ∈ ps, Compiles (ruleFlags t) p

/-- The value would describe a rule, but the first pattern of it that does
not compile is not refused for a fault. -/
def Overtaxes (v : Value) (r : Rejection) : Prop :=
  ∃ t ps i p, v = .table t ∧ IsSoundRule t ps
    ∧ FirstFault (fun p => ¬ Compiles (ruleFlags t) p) ps i p
    ∧ Escapes (ruleFlags t) p r

/-- What is said of a value that is no pattern. -/
inductive Refused (name : String) (i : Nat) (fs : Flags) (v : Value) :
    Failure → Prop
  | blamed {f : Fault} (hnot : ∀ r, ¬ Escapes fs v r)
    (hname : f.language = name) (hrule : f.rule = some i) :
    Refused name i fs v (.language f)
  | escaped {r : Rejection} (hr : Escapes fs v r) :
    Refused name i fs v (.pattern r)

/-- What is said of a value that stands for the rule of this number. -/
inductive Verdict (name : String) (i : Nat) (v : Value) :
    Except Failure Rule → Prop
  | rule {r : Rule} (h : DescribesRule v) : Verdict name i v (.ok r)
  | blamed {f : Fault} (h : ¬ DescribesRule v) (hnot : ∀ r, ¬ Overtaxes v r)
    (hname : f.language = name) (hrule : f.rule = some i) :
    Verdict name i v (.error (.language f))
  | escaped {r : Rejection} (h : ¬ DescribesRule v) (hr : Overtaxes v r) :
    Verdict name i v (.error (.pattern r))

variable {t : Table} {v : Value} {name key : String} {known : List String}
  {c : Cause} {i : Nat} {fs : Flags}

-- ============================================================== values

/-- A value is a word or not, and the check can tell. -/
theorem word?_cases (v : Value) :
    (∃ s, v = .string s ∧ s ≠ "" ∧ word? v = some s.toList)
      ∨ ¬ IsWord v ∧ word? v = none := by
  unfold word?
  split
  · next s =>
    split
    · next hs =>
      refine Or.inr ⟨?_, rfl⟩
      rintro ⟨s', heq, hs'⟩
      cases heq
      exact hs' hs
    · next hs => exact Or.inl ⟨s, rfl, hs, rfl⟩
  · next hv =>
    refine Or.inr ⟨?_, rfl⟩
    rintro ⟨s, rfl, -⟩
    exact hv s rfl

/-- A list is read just if all its values are words. -/
theorem mapM_word?_isSome (vs : List Value) :
    (vs.mapM word?).isSome ↔ ∀ v ∈ vs, IsWord v := by
  induction vs with
  | nil => exact iff_of_true rfl fun _ h => absurd h List.not_mem_nil
  | cons v vs ih =>
      rw [List.mapM_cons, List.forall_mem_cons, ← ih]
      rcases word?_cases v with ⟨s, rfl, hs, hword⟩ | ⟨hv, hword⟩
      · rw [hword]
        cases vs.mapM word? with
        | none => exact iff_of_false nofun fun h => nomatch h.2
        | some ws => exact iff_of_true rfl ⟨⟨s, rfl, hs⟩, rfl⟩
      · rw [hword]
        exact iff_of_false nofun fun h => hv h.1

/-- Something is left over of a list that is not empty. -/
theorem isSome_foldl {α β : Type} {f : Option α → β → Option α}
    (hf : ∀ o b, (f o b).isSome) {l : List β} (hl : l ≠ []) (o : Option α) :
    (l.foldl f o).isSome := by
  induction l generalizing o with
  | nil => exact absurd rfl hl
  | cons b l ih =>
      rw [List.foldl_cons]
      by_cases h : l = []
      · subst h
        exact hf o b
      · exact ih h _

/-- There is a least unknown key unless all keys are known. -/
theorem unknownKey?_eq_none_iff :
    unknownKey? known t = none ↔ ∀ e ∈ t, e.1 ∈ known := by
  have hnone : (t.map Prod.fst).filter (!known.contains ·) = []
      ↔ ∀ e ∈ t, e.1 ∈ known := by
    simp [List.filter_eq_nil_iff]
  rw [← hnone]
  unfold unknownKey?
  constructor
  · intro h
    by_contra hne
    refine Option.isSome_iff_ne_none.1
      (isSome_foldl (fun o k => ?_) hne none) h
    cases o with
    | none => rfl
    | some l =>
        dsimp only
        split <;> rfl
  · intro h
    rw [h]
    rfl

-- ============================================================= entries

/-- A reading of an entry succeeds just if the entry has the right form. -/
def Reads {α : Type} (m : Except Cause α) (P : Prop) : Prop :=
  (P ∧ ∃ a, m = .ok a) ∨ (¬ P ∧ ∃ c, m = .error c)

/-- An entry that is there is read by its value. -/
theorem Reads.of_some {α : Type} {m : Except Cause α} {P : Value → Prop}
    (h : t.lookup key = some v) (hm : Reads m (P v)) :
    Reads m (Holds t key P) := by
  refine hm.imp (And.imp_left fun hP w hw => ?_) (And.imp_left fun hP hall =>
    hP (hall v h))
  cases h.symm.trans hw
  exact hP

/-- An entry that is missing is read by its default. -/
theorem Reads.of_none {α : Type} {a : α} {P : Value → Prop}
    (h : t.lookup key = none) : Reads (.ok a) (Holds t key P) :=
  Or.inl ⟨fun v hv => (by cases h.symm.trans hv), a, rfl⟩

/-- A list of words may be missing or null. -/
theorem reads_words? (t : Table) (key : String) :
    Reads (words? t key) (Holds t key fun v => v = .null ∨ AreWords v) := by
  unfold words?
  split
  · next h => exact .of_none h
  · next h => exact .of_some h (Or.inl ⟨Or.inl rfl, _, rfl⟩)
  · next vs h =>
    refine .of_some h ?_
    split
    · next hws =>
      have hall := (mapM_word?_isSome vs).1 (by rw [hws]; rfl)
      exact Or.inl ⟨Or.inr ⟨vs, rfl, hall⟩, _, rfl⟩
    · next hws =>
      refine Or.inr ⟨?_, _, rfl⟩
      rintro (hnull | ⟨vs', heq, hall⟩)
      · cases hnull
      · cases heq
        have hsome := (mapM_word?_isSome vs).2 hall
        rw [hws] at hsome
        cases hsome
  · next v hnull hlist h =>
    refine .of_some h (Or.inr ⟨?_, _, rfl⟩)
    rintro (rfl | ⟨vs, rfl, -⟩)
    · exact hnull rfl
    · exact hlist vs rfl

/-- A truth value may be missing. -/
theorem reads_flag? (t : Table) (key : String) (c : Cause) :
    Reads (flag? t key c) (Holds t key IsTruth) := by
  unfold flag?
  split
  · next h => exact .of_none h
  · next b h => exact .of_some h (Or.inl ⟨⟨b, rfl⟩, _, rfl⟩)
  · next v hbool h =>
    refine .of_some h (Or.inr ⟨?_, _, rfl⟩)
    rintro ⟨b, rfl⟩
    exact hbool b rfl

/-- A single word may be missing or null. -/
theorem reads_optionalWord? (t : Table) (key : String) (c : Cause) :
    Reads (optionalWord? t key c)
      (Holds t key fun v => v = .null ∨ IsWord v) := by
  unfold optionalWord?
  split
  · next h => exact .of_none h
  · next h => exact .of_some h (Or.inl ⟨Or.inl rfl, _, rfl⟩)
  · next v hnull h =>
    refine .of_some h ?_
    rcases word?_cases v with ⟨s, rfl, hs, hword⟩ | ⟨hv, hword⟩
    · rw [hword]
      exact Or.inl ⟨Or.inr ⟨s, rfl, hs⟩, _, rfl⟩
    · rw [hword]
      refine Or.inr ⟨?_, _, rfl⟩
      rintro (rfl | hword)
      · exact hnull rfl
      · exact hv hword

/-- The rules are a list, which may be missing. -/
theorem ruleList?_cases (t : Table) :
    (Holds t "rules" (fun v => ∃ vs, v = .list vs)
        ∧ ruleList? t = .ok (entries t))
      ∨ ¬ Holds t "rules" (fun v => ∃ vs, v = .list vs)
        ∧ ∃ c, ruleList? t = .error c := by
  unfold ruleList? entries
  split
  · next h =>
    rw [h]
    exact Or.inl ⟨fun v hv => (by cases h.symm.trans hv), rfl⟩
  · next vs h =>
    rw [h]
    exact Or.inl ⟨fun v hv => ⟨vs, (Option.some.inj (h.symm.trans hv)).symm⟩,
      rfl⟩
  · next v hlist h =>
    refine Or.inr ⟨fun hall => ?_, _, rfl⟩
    obtain ⟨vs, rfl⟩ := hall v h
    exact hlist vs rfl

-- ============================================================ patterns

/-- A value is a pattern or refused. -/
theorem pattern?_cases (name : String) (i : Nat) (fs : Flags) (v : Value) :
    (Compiles fs v ∧ ∃ p, pattern? name i fs v = .ok p)
      ∨ ¬ Compiles fs v ∧ ∃ e, pattern? name i fs v = .error e
        ∧ Refused name i fs v e := by
  unfold pattern?
  rcases word?_cases v with ⟨s, rfl, hs, hword⟩ | ⟨hv, hword⟩
  · rw [hword]
    dsimp only
    have hnot {e : Rejection} (he : Pattern.compile s.toList fs = .error e) :
        ¬ Compiles fs (.string s) := by
      rintro ⟨s', p, heq, -, hp⟩
      cases heq
      cases he.symm.trans hp
    split
    · next p hp => exact Or.inl ⟨⟨s, p, rfl, hs, hp⟩, p, rfl⟩
    · next f place he =>
      refine Or.inr ⟨hnot he, _, rfl, .blamed ?_ rfl rfl⟩
      rintro r ⟨⟨s', heq, -, he'⟩, hr⟩
      cases heq
      cases he.symm.trans he'
      exact hr f place rfl
    · next e hfault he =>
      exact Or.inr ⟨hnot he, _, rfl, .escaped ⟨⟨s, rfl, hs, he⟩, hfault⟩⟩
  · rw [hword]
    refine Or.inr ⟨?_, _, rfl, .blamed ?_ rfl rfl⟩
    · rintro ⟨s, p, rfl, hs, -⟩
      exact hv ⟨s, rfl, hs⟩
    · rintro r ⟨⟨s, rfl, hs, -⟩, -⟩
      exact hv ⟨s, rfl, hs⟩

-- =============================================================== rules

/-- The flags of a rule are those that its entry asks for. -/
theorem ruleFlags_of_flag? {b : Bool}
    (h : flag? t "ignore_case" c = .ok b) :
    ruleFlags t = { ignoreCase := b } := by
  unfold flag? at h
  unfold ruleFlags
  split at h
  · next hlookup =>
    cases h
    rw [hlookup]
  · next hlookup =>
    cases h
    rw [hlookup]
  · cases h

/-- A check that fails is said of the rule, with its number. -/
theorem blameRule_bind {α β : Type} {m : Except Cause α} {P : Prop}
    (h : Reads m P) (f : α → Except Failure β) :
    (P ∧ ∃ a, m = .ok a ∧ (blameRule name i m >>= f) = f a)
      ∨ ¬ P ∧ ∃ c, (blameRule name i m >>= f)
        = .error (.language { cause := c, language := name, rule := i }) := by
  rcases h with ⟨hP, a, rfl⟩ | ⟨hP, c, rfl⟩
  · exact Or.inl ⟨hP, a, rfl, rfl⟩
  · exact Or.inr ⟨hP, c, rfl⟩

namespace Verdict

/-- A table without the form of a rule is blamed. -/
theorem of_not_sound (h : ∀ ps, ¬ IsSoundRule t ps) (c : Cause) :
    Verdict name i (.table t)
      (.error (.language { cause := c, language := name, rule := i })) := by
  refine .blamed ?_ ?_ rfl rfl
  · rintro ⟨t', ps, heq, hsound, -⟩
    cases heq
    exact h ps hsound
  · rintro r ⟨t', ps, j, p, heq, hsound, -⟩
    cases heq
    exact h ps hsound

variable {ps : List Value} {j : Nat} {p : Value}

/-- The first pattern that does not compile decides. -/
theorem of_firstFault (h : IsSoundRule t ps)
    (hp : FirstFault (fun p => ¬ Compiles (ruleFlags t) p) ps j p)
    {e : Failure} (he : Refused name i (ruleFlags t) p e) :
    Verdict name i (.table t) (.error e) := by
  have hnot : ¬ DescribesRule (.table t) := by
    rintro ⟨t', ps', heq, hsound, hall⟩
    cases heq
    cases h.patterns.symm.trans hsound.patterns
    exact hp.faulty (hall p (List.mem_of_getElem? hp.member))
  cases he with
  | blamed hescapes hname hrule =>
      refine .blamed hnot ?_ hname hrule
      rintro r ⟨t', ps', j', p', heq, hsound, hp', hr⟩
      cases heq
      cases h.patterns.symm.trans hsound.patterns
      obtain ⟨-, rfl⟩ := hp.unique hp'
      exact hescapes r hr
  | escaped hr => exact .escaped hnot ⟨t, ps, j, p, rfl, h, hp, hr⟩

/-- A rule of one pattern. -/
theorem of_one {p : Value} (h : IsSoundRule t [p]) (make : Pattern → Rule) :
    Verdict name i (.table t)
      (pattern? name i (ruleFlags t) p >>= fun p => .ok (make p)) := by
  rcases pattern?_cases name i (ruleFlags t) p
    with ⟨hcompiles, q, hq⟩ | ⟨hnot, e, heq, hrefused⟩
  · rw [hq]
    exact .rule ⟨t, [p], rfl, h, List.forall_mem_singleton.2 hcompiles⟩
  · rw [heq]
    exact .of_firstFault h (.zero hnot) hrefused

/-- A rule of two patterns; the second one is looked at behind the first. -/
theorem of_two {s e : Value} (h : IsSoundRule t [s, e])
    (make : Pattern → Pattern → Rule) :
    Verdict name i (.table t) (pattern? name i (ruleFlags t) s >>= fun s =>
      pattern? name i (ruleFlags t) e >>= fun e => .ok (make s e)) := by
  rcases pattern?_cases name i (ruleFlags t) s
    with ⟨hstart, q, hq⟩ | ⟨hnot, _, heq, hrefused⟩
  swap
  · rw [heq]
    exact .of_firstFault h (.zero hnot) hrefused
  rw [hq]
  show Verdict _ _ _ (pattern? name i (ruleFlags t) e >>= fun e => .ok _)
  rcases pattern?_cases name i (ruleFlags t) e
    with ⟨hend, q', hq'⟩ | ⟨hnot, _, heq, hrefused⟩
  · rw [hq']
    exact .rule ⟨t, [s, e], rfl, h,
      List.forall_mem_cons.2 ⟨hstart, List.forall_mem_singleton.2 hend⟩⟩
  · rw [heq]
    exact .of_firstFault h (.succ (not_not.2 hstart) (.zero hnot)) hrefused

end Verdict

/-- A table is judged entry by entry, and then pattern by pattern. -/
theorem ruleOfTable_verdict (name : String) (i : Nat) (t : Table) :
    Verdict name i (.table t) (ruleOfTable name i t) := by
  unfold ruleOfTable
  dsimp only
  split
  · next key hkey =>
    refine .of_not_sound (fun ps hsound => ?_) _
    rw [unknownKey?_eq_none_iff.2 hsound.known] at hkey
    cases hkey
  next hkeys =>
  rcases blameRule_bind (reads_optionalWord? t "class" .badLabel) _
    with ⟨hlabel, label, -, heq⟩ | ⟨hlabel, c, heq⟩
  swap
  · rw [heq]
    exact .of_not_sound (fun ps hsound => hlabel hsound.label) c
  rw [heq]
  rcases blameRule_bind (reads_flag? t "ignore_case" .badIgnoreCase) _
    with ⟨hflag, ignoreCase, hread, heq⟩ | ⟨hflag, c, heq⟩
  swap
  · rw [heq]
    exact .of_not_sound (fun ps hsound => hflag hsound.ignoreCase) c
  rw [heq, ← ruleFlags_of_flag? hread]
  have hknown := unknownKey?_eq_none_iff.1
    (Option.eq_none_iff_forall_ne_some.2 hkeys)
  have hsound {ps : List Value} (hps : patterns? t = some ps) :
      IsSoundRule t ps := ⟨hknown, hlabel, hflag, hps⟩
  have hshape (hps : patterns? t = none) (c : Cause) :
      Verdict name i (.table t) (.error (.language
        { cause := c, language := name, rule := i })) := by
    refine .of_not_sound (fun ps h => ?_) c
    cases hps.symm.trans h.patterns
  unfold patterns? at hsound hshape
  split
  · next p hp hs he =>
    rw [hp, hs, he] at hsound
    exact .of_one (hsound rfl) _
  · next p hp hboth =>
    refine hshape ?_ .patternAndEnds
    rw [hp]
    cases hs : t.lookup "start" with
    | some s => rfl
    | none =>
        cases he : t.lookup "end" with
        | some e => rfl
        | none => exact absurd he (hboth hs)
  · next s e hp hs he =>
    rw [hp, hs, he] at hsound
    exact .of_two (hsound rfl) _
  · next hp hboth =>
    refine hshape ?_ .noPattern
    rw [hp]
    cases hs : t.lookup "start" with
    | none => rfl
    | some s =>
        cases he : t.lookup "end" with
        | none => rfl
        | some e => exact absurd he (hboth s e hs)

/-- Where all else has the right form, the failure is that of the first
pattern that does not compile. -/
theorem ruleOfTable_eq_error {ps : List Value} {j : Nat} {p : Value}
    {e : Failure} (h : IsSoundRule t ps)
    (hp : FirstFault (fun p => ¬ Compiles (ruleFlags t) p) ps j p)
    (he : pattern? name i (ruleFlags t) p = .error e) :
    ruleOfTable name i t = .error e := by
  unfold ruleOfTable
  dsimp only
  rw [unknownKey?_eq_none_iff.2 h.known]
  rcases blameRule_bind (reads_optionalWord? t "class" .badLabel) _
    with ⟨-, label, -, heq⟩ | ⟨hnot, -⟩
  swap
  · exact absurd h.label hnot
  refine heq.trans ?_
  rcases blameRule_bind (reads_flag? t "ignore_case" .badIgnoreCase) _
    with ⟨-, ignoreCase, hread, heq⟩ | ⟨hnot, -⟩
  swap
  · exact absurd h.ignoreCase hnot
  refine heq.trans ?_
  rw [← ruleFlags_of_flag? hread]
  have hpatterns := h.patterns
  unfold patterns? at hpatterns
  split at hpatterns
  · next q hq hs hend =>
    cases hpatterns
    rw [hq, hs, hend]
    rcases hp.cons_cases with rfl | ⟨-, j, hrest⟩
    · dsimp only
      rw [he]
      rfl
    · cases hrest.member
  · next s q hq hs hend =>
    cases hpatterns
    rw [hq, hs, hend]
    dsimp only
    rcases hp.cons_cases with rfl | ⟨hstart, j, hrest⟩
    · rw [he]
      rfl
    rcases pattern?_cases name i (ruleFlags t) s
      with ⟨-, start, hok⟩ | ⟨hnot, -⟩
    swap
    · exact absurd hnot hstart
    rw [hok]
    rcases hrest.cons_cases with rfl | ⟨-, j, hrest⟩
    · show (pattern? name i (ruleFlags t) p >>= _) = _
      rw [he]
      rfl
    · cases hrest.member
  · cases hpatterns

/-- Only a table can be a rule. -/
theorem ruleOf_verdict (name : String) (i : Nat) (v : Value) :
    Verdict name i v (ruleOf name i v) := by
  unfold ruleOf
  split
  · exact ruleOfTable_verdict name i _
  · next hv =>
    refine .blamed ?_ ?_ rfl rfl
    · rintro ⟨t, ps, rfl, -⟩
      exact hv t rfl
    · rintro r ⟨t, ps, j, p, rfl, -⟩
      exact hv t rfl

/-- Rules are read one by one, each with its number. -/
theorem rulesOf_eq_mapM (name : String) (first : Nat) (vs : List Value) :
    rulesOf name first vs
      = (vs.zipIdx first).mapM fun (v, i) => ruleOf name i v := by
  induction vs generalizing first with
  | nil => rfl
  | cons v vs ih =>
      rw [List.zipIdx_cons, List.mapM_cons]
      show (ruleOf name first v >>= fun r => rulesOf name (first + 1) vs
        >>= fun rs => .ok (r :: rs)) = _
      rw [ih]
      rfl

-- ============================================================ languages

/-- A check that fails is said of the language. -/
theorem blame_bind {α β : Type} {m : Except Cause α} {P : Prop}
    (h : Reads m P) (f : α → Except Failure β) :
    (P ∧ ∃ a, (blame name m >>= f) = f a)
      ∨ ¬ P ∧ ∃ c, (blame name m >>= f)
        = .error (.language { cause := c, language := name }) := by
  rcases h with ⟨hP, a, rfl⟩ | ⟨hP, c, rfl⟩
  · exact Or.inl ⟨hP, a, rfl⟩
  · exact Or.inr ⟨hP, c, rfl⟩

/-- The entries of a table are checked first; then its rules decide. -/
theorem ofTable_cases (name : String) (t : Table) :
    (IsSound t ∧ ∃ make : List Rule → Spec, ofTable name t
        = rulesOf name 0 (entries t) >>= fun rules => .ok (make rules))
      ∨ ¬ IsSound t ∧ ∃ c, ofTable name t
        = .error (.language { cause := c, language := name }) := by
  unfold ofTable
  split
  · next key hkey =>
    refine Or.inr ⟨fun hsound => ?_, _, rfl⟩
    rw [unknownKey?_eq_none_iff.2 hsound.known] at hkey
    cases hkey
  next hkeys =>
  have hknown := unknownKey?_eq_none_iff.1
    (Option.eq_none_iff_forall_ne_some.2 hkeys)
  -- From here on each entry is read or blamed, in a fixed order.
  rcases blame_bind (reads_words? t "keywords") _
    with ⟨hkeywords, _, heq⟩ | ⟨hnot, c, heq⟩
  swap
  · exact Or.inr ⟨fun hsound => hnot hsound.keywords, c, heq⟩
  rw [heq]
  rcases blame_bind (reads_words? t "constants") _
    with ⟨hconstants, _, heq⟩ | ⟨hnot, c, heq⟩
  swap
  · exact Or.inr ⟨fun hsound => hnot hsound.constants, c, heq⟩
  rw [heq]
  rcases blame_bind (reads_words? t "builtins") _
    with ⟨hbuiltins, _, heq⟩ | ⟨hnot, c, heq⟩
  swap
  · exact Or.inr ⟨fun hsound => hnot hsound.builtins, c, heq⟩
  rw [heq]
  rcases blame_bind (reads_flag? t "double_string" (.badFlag "double_string"))
    _ with ⟨hdouble, _, heq⟩ | ⟨hnot, c, heq⟩
  swap
  · exact Or.inr ⟨fun hsound => hnot hsound.doubleString, c, heq⟩
  rw [heq]
  rcases blame_bind (reads_flag? t "single_string" (.badFlag "single_string"))
    _ with ⟨hsingle, _, heq⟩ | ⟨hnot, c, heq⟩
  swap
  · exact Or.inr ⟨fun hsound => hnot hsound.singleString, c, heq⟩
  rw [heq]
  rcases blame_bind (reads_optionalWord? t "comment_delimiter" .badDelimiter)
    _ with ⟨hdelimiter, _, heq⟩ | ⟨hnot, c, heq⟩
  swap
  · exact Or.inr ⟨fun hsound => hnot hsound.delimiter, c, heq⟩
  rw [heq]
  rcases ruleList?_cases t with ⟨hrules, hlist⟩ | ⟨hnot, c, hlist⟩
  · rw [hlist]
    exact Or.inl ⟨⟨hknown, hkeywords, hconstants, hbuiltins, hdouble,
      hsingle, hdelimiter, hrules⟩, _, rfl⟩
  · rw [hlist]
    exact Or.inr ⟨fun hsound => hnot hsound.rules, c, rfl⟩

/-- A value that describes a rule is read as one. -/
theorem exists_ruleOf (h : DescribesRule v) (name : String) (i : Nat) :
    ∃ r, ruleOf name i v = .ok r := by
  have hverdict := ruleOf_verdict name i v
  generalize ruleOf name i v = x at hverdict
  cases hverdict with
  | rule => exact ⟨_, rfl⟩
  | blamed hnot => exact absurd h hnot
  | escaped hnot => exact absurd h hnot

/-- Where all entries describe rules, the rules are there. -/
theorem exists_rulesOf (name : String) {vs : List Value}
    (h : ∀ v ∈ vs, DescribesRule v) :
    ∃ rules, rulesOf name 0 vs = .ok rules := by
  rw [rulesOf_eq_mapM]
  refine exists_mapM fun vi hvi => ?_
  exact exists_ruleOf (h _ (List.fst_mem_of_mem_zipIdx hvi)) name vi.2

/-- Otherwise the failure is that of the first entry that describes
none. -/
theorem rulesOf_eq_error {vs : List Value} {e : Failure}
    (h : FirstFault (fun v => ¬ DescribesRule v) vs i v)
    (he : ruleOf name i v = .error e) : rulesOf name 0 vs = .error e := by
  rw [rulesOf_eq_mapM]
  exact mapM_of_firstFault
    (fun j w hw => exists_ruleOf (not_not.1 hw) name j) h
    ((Nat.zero_add i).symm ▸ he)

/-- That entry decides. -/
theorem rulesOf_of_firstFault (name : String) {vs : List Value}
    (h : FirstFault (fun v => ¬ DescribesRule v) vs i v) :
    ∃ e, rulesOf name 0 vs = .error e ∧ Verdict name i v (.error e) := by
  have hverdict := ruleOf_verdict name i v
  rcases he : ruleOf name i v with e | r
  · exact ⟨e, rulesOf_eq_error h he, he ▸ hverdict⟩
  · rw [he] at hverdict
    cases hverdict with
    | rule hrule => exact absurd hrule h.faulty

/-- A table describes a language just if all entries have the right form.
Otherwise the language is blamed by its name, and if only rules are at
fault, by the number of the first one. What escapes is a pattern that the
compiler of patterns refuses for other reasons than a fault in it. -/
theorem ofTable_outcomes (name : String) (t : Table) :
    ((∃ spec, ofTable name t = .ok spec)
        ↔ IsSound t ∧ ∀ v ∈ entries t, DescribesRule v)
      ∧ (∀ e, ofTable name t = .error e →
        (∃ f, e = .language f ∧ f.language = name)
          ∨ ∃ i v r, IsSound t
            ∧ FirstFault (fun v => ¬ DescribesRule v) (entries t) i v
            ∧ Overtaxes v r ∧ e = .pattern r)
      ∧ (IsSound t → ∀ i v,
        FirstFault (fun v => ¬ DescribesRule v) (entries t) i v →
          ((∀ r, ¬ Overtaxes v r) ∧ ∃ f, f.language = name
              ∧ f.rule = some i ∧ ofTable name t = .error (.language f))
            ∨ ∃ r, Overtaxes v r ∧ ofTable name t = .error (.pattern r)) := by
  rcases ofTable_cases name t with ⟨hsound, make, heq⟩ | ⟨hnot, c, heq⟩
  swap
  · rw [heq]
    refine ⟨iff_of_false nofun fun h => hnot h.1, fun e he => ?_,
      fun h => absurd h hnot⟩
    cases he
    exact Or.inl ⟨_, rfl, rfl⟩
  by_cases hall : ∀ v ∈ entries t, DescribesRule v
  · obtain ⟨rules, hrules⟩ := exists_rulesOf name hall
    rw [heq, hrules]
    refine ⟨iff_of_true ⟨_, rfl⟩ ⟨hsound, hall⟩, nofun, fun _ i v h => ?_⟩
    exact absurd (hall v (List.mem_of_getElem? h.member)) h.faulty
  · have hsome : ¬ ∀ v ∈ entries t, ¬ ¬ DescribesRule v := by
      simpa only [not_not] using hall
    obtain ⟨i, v, hfirst⟩ := FirstFault.exists_of_not_forall hsome
    obtain ⟨e, hrules, hverdict⟩ := rulesOf_of_firstFault name hfirst
    have herror : ofTable name t = .error e := by
      rw [heq, hrules]
      rfl
    rw [herror]
    refine ⟨iff_of_false nofun fun h => hall h.2, fun e' he' => ?_,
      fun _ j w hfirst' => ?_⟩
    · cases he'
      cases hverdict with
      | blamed _ _ hname => exact Or.inl ⟨_, rfl, hname⟩
      | escaped _ hr => exact Or.inr ⟨i, v, _, hsound, hfirst, hr, rfl⟩
    · obtain ⟨rfl, rfl⟩ := hfirst.unique hfirst'
      cases hverdict with
      | blamed _ hr hname hrule =>
          exact Or.inl ⟨hr, _, hname, hrule, rfl⟩
      | escaped _ hr => exact Or.inr ⟨_, hr, rfl⟩

/-- Two rules, of which the second is no table. -/
def numbered : Table :=
  [("rules", .list [.table [("pattern", .string "a")], .int 3])]

/-- A table of rules alone has the right form. -/
theorem isSound_of_rules {vs : List Value} :
    IsSound [("rules", .list vs)] where
  known := by simp [keys]
  keywords := fun v hv => by cases hv
  constants := fun v hv => by cases hv
  builtins := fun v hv => by cases hv
  doubleString := fun v hv => by cases hv
  singleString := fun v hv => by cases hv
  delimiter := fun v hv => by cases hv
  rules := fun v hv => by
    cases hv
    exact ⟨vs, rfl⟩

/-- So has a rule of one pattern. -/
theorem isSoundRule_of_pattern (v : Value) :
    IsSoundRule [("pattern", v)] [v] where
  known := by simp [ruleKeys]
  label := fun v hv => by cases hv
  ignoreCase := fun v hv => by cases hv
  patterns := rfl

theorem ofTable_outcomes_numbered :
    ∃ f, f.language = "x" ∧ f.rule = some 1
      ∧ ofTable "x" numbered = .error (.language f) := by
  have hletter : DescribesRule (.table [("pattern", .string "a")]) := by
    refine ⟨_, _, rfl, isSoundRule_of_pattern _, ?_⟩
    exact List.forall_mem_singleton.2 ⟨"a", _, rfl, by decide,
      eq_ok_get (by decide +kernel)⟩
  have hfirst : FirstFault (fun v => ¬ DescribesRule v) (entries numbered) 1
      (.int 3) := by
    refine .succ (not_not.2 hletter) (.zero ?_)
    rintro ⟨t, ps, heq, -⟩
    cases heq
  rcases (ofTable_outcomes "x" numbered).2.2 isSound_of_rules 1 _ hfirst
    with ⟨-, hblamed⟩ | ⟨r, ⟨t, ps, j, p, heq, -⟩, -⟩
  · exact hblamed
  · cases heq

/-- A count beyond every limit is not blamed on the language. -/
theorem ofTable_overflow :
    ∃ e, ofTable "x" [("rules", .list [.table
        [("pattern", .string "a\x7b4294967295\x7d")]])] = .error e
      ∧ ∀ f, e ≠ .language f :=
  ⟨.pattern .overflow, by decide +kernel, nofun⟩

end Highlight.Spec
