/-
The registry of a run: the known languages, or these with the languages of
a configuration put in.

Every language of such a registry was compiled from the description that
the registry keeps of it (`exists_of_get?`), so what holds of compiled
languages holds of what is scanned with. A further language that compiles
can be put in (`exists_extend`): the others compile as they did before.
-/
import Highlight.Config.Languages
import Highlight.Proofs.Language.Builtin

namespace Highlight

open List (Forall₂)

-- ============================================================= entries

namespace Entries

variable {κ β : Type} [BEq κ] {es : Entries κ β}

theorem mem_put {k : κ} {v : β} {e : κ × β} (h : e ∈ es.put k v) :
    e ∈ es ∨ e = (k, v) := by
  induction es with
  | nil => exact Or.inr (List.mem_singleton.1 h)
  | cons d es ih =>
      obtain ⟨j, w⟩ := d
      unfold put at h
      split at h
      · rcases List.mem_cons.1 h with h | h
        · exact Or.inr h
        · exact Or.inl (List.mem_cons_of_mem _ h)
      · rcases List.mem_cons.1 h with rfl | h
        · exact Or.inl List.mem_cons_self
        · exact (ih h).imp_left (List.mem_cons_of_mem _)

end Entries

namespace Registry

variable {specs : Entries String Spec} {entries : Entries String (List Rule)}
  {aliases : Entries String String} {log : List String} {name : String}
  {spec : Spec} {rules : List Rule} {r : Registry}

-- ========================================================== vocabulary

/-- The registry was built from its own descriptions. -/
def IsBuilt (r : Registry) : Prop := (build r.specs r.aliases).2 = .ok r

-- =========================================================== look-up

theorem exists_spec_of_lookup
    (h : Forall₂ (fun e e' => e'.1 = e.1 ∧ e.2.compile e.1 = .ok e'.2)
      specs entries)
    (hrules : entries.lookup name = some rules) :
    ∃ spec, specs.lookup name = some spec
      ∧ spec.compile name = .ok rules := by
  induction h with
  | nil => cases hrules
  | @cons e e' specs entries he hrest ih =>
      obtain ⟨key, spec⟩ := e
      obtain ⟨key', rules'⟩ := e'
      obtain ⟨hkey, hcompile⟩ := he
      change key' = key at hkey
      subst hkey
      rw [List.lookup_cons] at hrules ⊢
      by_cases hname : name = key'
      · subst hname
        rw [beq_self_eq_true] at hrules ⊢
        cases hrules
        exact ⟨spec, rfl, hcompile⟩
      · rw [beq_false_of_ne hname] at hrules ⊢
        exact ih hrules

theorem isBuilt_of_build (h : (build specs aliases).2 = .ok r) :
    r.IsBuilt := by
  have h' := h
  unfold build at h'
  split at h'
  · cases h'
  · cases h'
    exact h

/-- All languages of a registry were compiled from their descriptions. -/
theorem IsBuilt.forall₂ (hr : r.IsBuilt) :
    Forall₂ (fun e e' => e'.1 = e.1 ∧ e.2.compile e.1 = .ok e'.2)
      r.specs r.rules := by
  unfold IsBuilt build at hr
  split at hr
  · cases hr
  · next log entries hall =>
    have hrules := congrArg Registry.rules (Except.ok.inj hr)
    exact hrules ▸ forall₂_of_compileAll hall

/-- A language of a registry was compiled from its description. -/
theorem exists_of_get? (hr : r.IsBuilt) (h : r.get? name = some rules) :
    ∃ spec, r.specs.lookup name = some spec
      ∧ spec.compile name = .ok rules :=
  exists_spec_of_lookup hr.forall₂ h

theorem isBuilt_default : default.IsBuilt :=
  isBuilt_of_build build_default

/-- A registry of a configuration extends the known one. -/
theorem exists_extend_of_registry? {t : Config.Table}
    (h : (Config.registry? t).2 = .ok (some r)) :
    ∃ specs aliases, (Registry.default.extend specs aliases).2 = .ok r := by
  unfold Config.registry? at h
  dsimp only at h
  split at h
  · cases h
  · cases h
  · split at h
    · next hext =>
      cases h
      exact ⟨_, _, congrArg Prod.snd hext⟩
    · cases h

/-- The registry of a run was built from its descriptions. -/
theorem isBuilt_of_registry? {t : Config.Table} {made : Option Registry}
    (h : (Config.registry? t).2 = .ok made) :
    (made.getD .default).IsBuilt := by
  cases made with
  | none =>
      rw [Option.getD_none]
      exact isBuilt_default
  | some r =>
      obtain ⟨_, _, hextend⟩ := exists_extend_of_registry? h
      rw [Option.getD_some]
      exact isBuilt_of_build hextend

-- ====================================================== one more language

/-- Languages that compile one by one compile together. -/
theorem exists_compileAll
    (h : ∀ e ∈ specs, ∃ rules, e.2.compile e.1 = .ok rules) :
    ∃ log entries, compileAll specs = (log, .ok entries) := by
  induction specs with
  | nil => exact ⟨[], [], rfl⟩
  | cons e specs ih =>
      rw [List.forall_mem_cons] at h
      obtain ⟨rules, hrules⟩ := h.1
      obtain ⟨log, entries, hrest⟩ := ih h.2
      unfold compileAll
      rw [hrules, hrest]
      exact ⟨_, _, rfl⟩

/-- A language that compiles can be put into a registry. -/
theorem exists_extend (hr : r.IsBuilt) (h : spec.compile name = .ok rules) :
    ∃ log r', r.extend [(name, spec)] [] = (log, .ok r')
      ∧ r'.specs.lookup name = some spec ∧ r'.get? name = some rules := by
  have hspecs : ∀ e ∈ r.specs.putAll [(name, spec)],
      ∃ rules, e.2.compile e.1 = .ok rules := by
    intro e he
    rcases Entries.mem_put he with he | rfl
    · obtain ⟨e', -, -, hcompile⟩ := exists_of_mem_left hr.forall₂ he
      exact ⟨e'.2, hcompile⟩
    · exact ⟨rules, h⟩
  have hlookup : (r.specs.putAll [(name, spec)]).lookup name = some spec :=
    Entries.lookup_put_self name spec r.specs
  obtain ⟨log, entries, hall⟩ := exists_compileAll hspecs
  unfold extend build
  rw [hall]
  refine ⟨_, _, rfl, hlookup, ?_⟩
  obtain ⟨rules', hget, hcompile⟩ :=
    exists_of_lookup (forall₂_of_compileAll hall) hlookup
  rw [h] at hcompile
  cases hcompile
  exact hget

/-- The name of a language stands for itself. -/
theorem canonicalName?_of_get? (h : r.get? name = some rules) :
    r.canonicalName? name = some name := by
  obtain ⟨es, es', hmem, -⟩ := List.lookup_eq_some_iff.1 h
  have hcontains : r.contains name := by
    simp [contains, names, Entries.keys, hmem]
  unfold canonicalName?
  rw [if_pos hcontains]

/-- A configuration that says anything about languages extends the known
registry. -/
theorem registry?_eq {t languages names : Config.Table}
    (hlanguages : Config.section? "languages" t = .ok languages)
    (hspecs : Config.languagesOf languages = .ok specs)
    (hnames : Config.section? "aliases" t = .ok names)
    (haliases : Config.aliasesOf names = .ok aliases)
    (hne : specs ≠ [] ∨ aliases ≠ [])
    (hextend : Registry.default.extend specs aliases = (log, .ok r)) :
    Config.registry? t = (log, .ok (some r)) := by
  unfold Config.registry?
  -- the known languages by name only, so that none is compiled here
  obtain ⟨known, hknown⟩ : ∃ known, known = Registry.default := ⟨_, rfl⟩
  rw [← hknown] at hextend ⊢
  simp only [hlanguages, hspecs, hnames, haliases, bind, Except.bind,
    Except.mapError]
  split
  · next h => cases h
  · next h =>
    cases h
    simp at hne
  · next h =>
    cases h
    rw [hextend]

/-- A configuration with one language that compiles makes a registry with
that language in it. -/
theorem exists_registry? {t : Config.Table}
    (ht : Spec.ofTable name t = .ok spec)
    (hc : spec.compile name = .ok rules) :
    ∃ log r, Config.registry? [("languages", .table [(name, .table t)])]
        = (log, .ok (some r))
      ∧ r.specs.lookup name = some spec ∧ r.get? name = some rules := by
  obtain ⟨log, r, hextend, hr⟩ := exists_extend isBuilt_default hc
  have hlanguages : Config.languagesOf [(name, .table t)]
      = .ok [(name, spec)] := by
    simp [Config.languagesOf, Config.languageOf, ht, bind, Except.bind]
  exact ⟨log, r, registry?_eq rfl hlanguages rfl rfl
    (.inl (List.cons_ne_nil _ _)) hextend, hr⟩

/-- What one language makes of a text, with a registry that it was put
into. -/
theorem exists_scan {α : Type} {t : Config.Table} {source : Text}
    {f : Spec → List Token → α} {a : α}
    (h : ((Spec.ofTable name t).toOption.bind fun spec =>
      (spec.compile name).toOption.bind fun rules =>
        (tokenize rules source).toOption.map (f spec)) = some a) :
    ∃ log r spec rules ts,
      Config.registry? [("languages", .table [(name, .table t)])]
          = (log, .ok (some r))
        ∧ r.specs.lookup name = some spec ∧ r.get? name = some rules
        ∧ tokenize rules source = .ok ts ∧ f spec ts = a := by
  obtain ⟨spec, hspec, h⟩ := Option.bind_eq_some_iff.1 h
  obtain ⟨rules, hrules, h⟩ := Option.bind_eq_some_iff.1 h
  obtain ⟨ts, hts, h⟩ := Option.map_eq_some_iff.1 h
  obtain ⟨log, r, hr, hlookup, hget⟩ := exists_registry?
    (eq_ok_of_toOption hspec) (eq_ok_of_toOption hrules)
  exact ⟨log, r, spec, rules, ts, hr, hlookup, hget, eq_ok_of_toOption hts,
    h⟩

end Registry

end Highlight
