/-
What a registry knows after any history: it was built, and then extended
any number of times.

Only what was given counts, not how it was spread over the extensions.
The description that was given last for a name is the one that was
compiled, a name of a language comes before all aliases, and languages
stand where they were first named (`resolves_of_grows`).

# Collecting

A map that is put together from entries holds the last value for every
key, at the place of the first one (`Entries.lookup_collect`,
`Entries.keys_collect`). The descriptions and the aliases of a registry
are such collections of all that was given so far (`Grows.holds`), so a
history has the same outcome as one extension by all of it.
-/
import Highlight.Proofs.Language.Configured
import Highlight.Session.Output
import Highlight.Workspace
import Mathlib.Data.List.Nodup

namespace Highlight

-- ========================================================= collections

namespace Entries

variable {κ β : Type} [BEq κ] {given more : List (κ × β)}
  {es es' : Entries κ β} {k : κ} {v : β}

/-- The map of all entries, in the order in which they are given. -/
def collect (given : List (κ × β)) : Entries κ β := putAll [] given

/-- The value that was last given for a key. -/
def lastGiven (given : List (κ × β)) (k : κ) : Option β :=
  given.reverse.lookup k

/-- What is given later is put in later. -/
theorem collect_append :
    collect (given ++ more) = (collect given).putAll more :=
  List.foldl_append

/-- The last entry that is given is put in last. -/
theorem collect_concat :
    collect (given ++ [(k, v)]) = put k v (collect given) :=
  collect_append

/-- Of two stretches the later one counts, if it has the key. -/
theorem lastGiven_append :
    lastGiven (given ++ more) k
      = (lastGiven more k).or (lastGiven given k) := by
  unfold lastGiven
  rw [List.reverse_append, List.lookup_append]

variable [LawfulBEq κ]

theorem lastGiven_singleton_self : lastGiven [(k, v)] k = some v := by
  simp [lastGiven]

/-- An entry says nothing of other keys. -/
theorem lastGiven_singleton_of_ne {j : κ} (h : k ≠ j) :
    lastGiven [(j, v)] k = none := by
  simp [lastGiven, List.lookup_cons, beq_false_of_ne h]

/-- A collection holds what was given last. -/
theorem lookup_collect : (collect given).lookup k = lastGiven given k := by
  induction given using List.reverseRecOn with
  | nil => rfl
  | append_singleton given e ih =>
      obtain ⟨j, v⟩ := e
      rw [collect_concat, lastGiven_append, ← ih]
      by_cases h : k = j
      · subst h
        rw [lookup_put_self, lastGiven_singleton_self, Option.some_or]
      · rw [lookup_put_of_ne v _ h, lastGiven_singleton_of_ne h,
          Option.none_or]

/-- One more key is added unless it is there. -/
theorem eraseDups_concat (l : List κ) (k : κ) :
    (l ++ [k]).eraseDups
      = if k ∈ l then l.eraseDups else l.eraseDups ++ [k] := by
  rw [List.eraseDups_append]
  by_cases h : k ∈ l
  · simp [List.removeAll, h]
  · simp [List.removeAll, h, List.eraseDups_cons]

/-- A repetition may be left out before or after. -/
theorem eraseDups_append_eraseDups (l l' : List κ) :
    (l ++ l'.eraseDups).eraseDups = (l ++ l').eraseDups := by
  induction l' using List.reverseRecOn with
  | nil => rfl
  | append_singleton l' k ih =>
      rw [eraseDups_concat, ← List.append_assoc, eraseDups_concat]
      by_cases h : k ∈ l'
      · rw [if_pos h, ih, if_pos (List.mem_append_right l h)]
      · rw [if_neg h, ← List.append_assoc, eraseDups_concat, ih]
        simp only [List.mem_append, List.mem_eraseDups]

/-- The keys of a collection stand where they were first given. -/
theorem keys_collect :
    keys (collect given) = (given.map Prod.fst).eraseDups := by
  induction given using List.reverseRecOn with
  | nil => rfl
  | append_singleton given e ih =>
      obtain ⟨j, v⟩ := e
      rw [collect_concat, keys_put, ih, List.map_append, List.map_singleton,
        eraseDups_concat]
      simp only [List.mem_eraseDups]

/-- Putting an entry in repeats no key. -/
theorem nodup_keys_put (h : (keys es).Nodup) : (keys (put k v es)).Nodup := by
  rw [keys_put]
  split
  · exact h
  · next hk =>
    rw [← List.concat_eq_append]
    exact (List.nodup_concat _ _).2 ⟨hk, h⟩

/-- So a table never has a key twice. -/
theorem nodup_keys_collect : (keys (collect given)).Nodup := by
  induction given using List.reverseRecOn with
  | nil => exact List.nodup_nil
  | append_singleton given e ih =>
      rw [collect_concat]
      exact nodup_keys_put ih

theorem lookup_eq_none (h : k ∉ keys es) : es.lookup k = none := by
  rw [List.lookup_eq_none_iff]
  intro e he
  refine bne_iff_ne.2 fun heq => h ?_
  exact heq ▸ List.mem_map_of_mem he

/-- Maps with the same keys in the same order and the same values are the
same. -/
theorem eq_of_lookup_eq (hkeys : keys es = keys es') (h : (keys es).Nodup)
    (hlookup : ∀ k, es.lookup k = es'.lookup k) : es = es' := by
  induction es generalizing es' with
  | nil =>
      cases es' with
      | nil => rfl
      | cons e es' => cases hkeys
  | cons e es ih =>
      cases es' with
      | nil => cases hkeys
      | cons e' es' =>
          obtain ⟨k, v⟩ := e
          obtain ⟨k', v'⟩ := e'
          obtain ⟨rfl, htail⟩ := List.cons.inj hkeys
          obtain ⟨hk, hnodup⟩ := List.nodup_cons.1 h
          have hv := hlookup k
          rw [List.lookup_cons_self, List.lookup_cons_self] at hv
          cases hv
          rw [ih htail hnodup fun j => ?_]
          by_cases hj : j = k
          · subst hj
            have hk' : j ∉ keys es' := by
              rwa [show keys es' = keys es from htail.symm]
            rw [lookup_eq_none hk, lookup_eq_none hk']
          · have hrest := hlookup j
            rwa [List.lookup_cons, List.lookup_cons, beq_false_of_ne hj]
              at hrest

/-- A new key is put at the end. -/
theorem put_of_not_mem (h : k ∉ keys es) : put k v es = es ++ [(k, v)] := by
  induction es with
  | nil => rfl
  | cons e es ih =>
      obtain ⟨j, w⟩ := e
      obtain ⟨hj, hes⟩ := not_or.1 (List.mem_cons.not.1 h)
      unfold put
      rw [if_neg (by simpa using Ne.symm hj), ih hes, List.cons_append]

/-- A map without repeated keys is the collection of its entries. -/
theorem collect_of_nodup (h : (keys es).Nodup) : collect es = es := by
  induction es using List.reverseRecOn with
  | nil => rfl
  | append_singleton es e ih =>
      obtain ⟨k, v⟩ := e
      have hkeys : keys (es ++ [(k, v)]) = (keys es).concat k := by
        rw [List.concat_eq_append]
        exact List.map_append
      rw [hkeys, List.nodup_concat] at h
      rw [collect_concat, ih h.2, put_of_not_mem h.1]

/-- Entries that were collected first are put in all the same. -/
theorem putAll_collect :
    (collect given).putAll (collect more) = (collect given).putAll more := by
  rw [← collect_append, ← collect_append]
  refine eq_of_lookup_eq ?_ nodup_keys_collect fun k => ?_
  · have hkeys : (collect more).map Prod.fst
        = (more.map Prod.fst).eraseDups := keys_collect
    rw [keys_collect, keys_collect, List.map_append, List.map_append, hkeys,
      eraseDups_append_eraseDups]
  · have hlast : lastGiven (collect more) k = lastGiven more k := by
      rw [← lookup_collect, collect_of_nodup nodup_keys_collect,
        lookup_collect]
    rw [lookup_collect, lookup_collect, lastGiven_append, lastGiven_append,
      hlast]

end Entries

-- =========================================================== histories

namespace Registry

open Entries (collect lastGiven)

/-- Languages and aliases that are given to a registry at one time. -/
structure Giving where
  specs : Entries String Spec
  aliases : Entries String String

/-- A registry is extended time after time, and every extension
succeeds. -/
inductive Grows (first : Registry) : List Giving → Registry → Prop
  | refl : Grows first [] first
  | extend {gs : List Giving} {g : Giving} {r r' : Registry}
    (h : Grows first gs r) (he : (r.extend g.specs g.aliases).2 = .ok r') :
    Grows first (gs ++ [g]) r'

/-- The descriptions of all times, in order. -/
def specsGiven (specs : Entries String Spec) (gs : List Giving) :
    List (String × Spec) :=
  specs ++ gs.flatMap Giving.specs

/-- The aliases of all times, in order. -/
def aliasesGiven (aliases : Entries String String) (gs : List Giving) :
    List (String × String) :=
  aliases ++ gs.flatMap Giving.aliases

/-- The registry was built from all that was given. -/
structure Holds (specs : List (String × Spec))
    (aliases : List (String × String)) (r : Registry) : Prop where
  specs_eq : r.specs = collect specs
  aliases_eq : r.aliases = collect aliases
  isBuilt : r.IsBuilt

/-- What a registry makes of names: it has compiled the last description
for each name of a language; any other name stands for the target that was
last given for it, if that is the name of a language. The languages are
listed as they were first named. -/
structure Resolves (specs : List (String × Spec))
    (aliases : List (String × String)) (r : Registry) : Prop where
  language : ∀ n spec, lastGiven specs n = some spec →
    ∃ rules, spec.compile n = .ok rules ∧ r.get? n = some rules
      ∧ r.resolve? n = some rules ∧ r.canonicalName? n = some n
  otherName : ∀ n t, n ∉ specs.map Prod.fst → lastGiven aliases n = some t →
    t ∈ specs.map Prod.fst →
      r.canonicalName? n = some t ∧ r.resolve? n = r.get? t
  unknown : ∀ n, n ∉ specs.map Prod.fst →
    (∀ t, lastGiven aliases n = some t → t ∉ specs.map Prod.fst) →
      r.canonicalName? n = none ∧ r.resolve? n = none
  names : r.names = (specs.map Prod.fst).eraseDups

/-- Wherever a name can be used, a text in that language is highlighted
with the same rules: with a name or an alias by the session, by the
library, and by the editor, if the editor gives the name. -/
structure Selects (r : Registry) (n : String) (rules : List Rule) :
    Prop where
  session : ∃ c, r.canonicalName? n = some c ∧ r.get? c = some rules
    ∧ ∀ s : Settings, s.registry = r → s.rules? n = some (c, rules)
  library : ∀ source, Html.ofSourceIn r n source = Html.ofSource rules source
  editor : n ≠ "" → ∀ (find? : Text → Option Document) uri d,
    find? uri = some d → d.languageId = n →
      Workspace.semantic? find? r uri
        = some (Semantic.ofSource rules d.text)

variable {specs : List (String × Spec)} {aliases : List (String × String)}
  {first r r' : Registry} {gs hs : List Giving} {n c : String}
  {rules : List Rule}

-- ============================================================ extending

/-- A registry that is extended holds what both have given. -/
theorem Holds.extend {moreSpecs : Entries String Spec}
    {moreAliases : Entries String String} (h : Holds specs aliases r)
    (he : (r.extend moreSpecs moreAliases).2 = .ok r') :
    Holds (specs ++ moreSpecs) (aliases ++ moreAliases) r' := by
  have hbuilt := isBuilt_of_build he
  unfold Registry.extend build at he
  split at he
  · cases he
  · cases he
    refine ⟨?_, ?_, hbuilt⟩
    · rw [h.specs_eq, Entries.collect_append]
    · rw [h.aliases_eq, Entries.collect_append]

/-- At every time a registry holds what was given up to then. -/
theorem Grows.holds {specs : Entries String Spec}
    {aliases : Entries String String} (hg : Grows first gs r)
    (hspecs : (Entries.keys specs).Nodup)
    (haliases : (Entries.keys aliases).Nodup)
    (hb : (build specs aliases).2 = .ok first) :
    Holds (specsGiven specs gs) (aliasesGiven aliases gs) r := by
  unfold specsGiven aliasesGiven
  induction hg with
  | refl =>
      have hbuilt := isBuilt_of_build hb
      unfold build at hb
      split at hb
      · cases hb
      · cases hb
        simp only [List.flatMap_nil, List.append_nil]
        exact ⟨(Entries.collect_of_nodup hspecs).symm,
          (Entries.collect_of_nodup haliases).symm, hbuilt⟩
  | extend _ he ih =>
      have hnext := ih.extend he
      simpa only [List.append_assoc, List.flatMap_append,
        List.flatMap_singleton] using hnext

/-- Every part of a history leads to a registry. -/
theorem Grows.of_append {after : List Giving}
    (hg : Grows first (gs ++ after) r) :
    ∃ m, Grows first gs m ∧ Grows m after r := by
  generalize hall : gs ++ after = all at hg
  induction hg generalizing after with
  | refl =>
      obtain ⟨rfl, rfl⟩ := List.append_eq_nil_iff.1 hall
      exact ⟨first, .refl, .refl⟩
  | @extend all g r r' hg he ih =>
      rcases List.eq_nil_or_concat after with rfl | ⟨before, g', rfl⟩
      · rw [List.append_nil] at hall
        subst hall
        exact ⟨r', .extend hg he, .refl⟩
      · rw [List.concat_eq_append, ← List.append_assoc] at hall
        obtain ⟨hinit, hlast⟩ := List.append_inj' hall rfl
        cases hlast
        obtain ⟨m, hm, hmr⟩ := ih hinit
        rw [List.concat_eq_append]
        exact ⟨m, hm, hmr.extend he⟩

-- ============================================================= resolving

/-- A registry has the languages whose names it lists. -/
theorem contains_iff : r.contains n = true ↔ n ∈ r.names := by
  unfold contains
  exact List.contains_iff_mem

/-- These are the names of its descriptions, in order. -/
theorem IsBuilt.names_eq (hr : r.IsBuilt) :
    r.names = Entries.keys r.specs := by
  have hall := hr.forall₂
  unfold names Entries.keys
  generalize r.specs = specs, r.rules = entries at hall
  induction hall with
  | nil => rfl
  | cons he _ ih => rw [List.map_cons, List.map_cons, he.1, ih]

/-- And these are all names that were given, each where it was given first.
-/
theorem Holds.names_eq (h : Holds specs aliases r) :
    r.names = (specs.map Prod.fst).eraseDups := by
  rw [h.isBuilt.names_eq, h.specs_eq, Entries.keys_collect]

/-- A language is there just if it was ever given. -/
theorem Holds.contains_iff (h : Holds specs aliases r) :
    r.contains n = true ↔ n ∈ specs.map Prod.fst := by
  rw [Registry.contains_iff, h.names_eq, List.mem_eraseDups]

/-- A registry makes of names what was given for them. -/
theorem Holds.resolves (h : Holds specs aliases r) :
    Resolves specs aliases r := by
  refine ⟨?_, ?_, ?_, h.names_eq⟩
  · intro n spec hspec
    have hlookup : r.specs.lookup n = some spec := by
      rw [h.specs_eq, Entries.lookup_collect, hspec]
    obtain ⟨rules, hget, hcompile⟩ :=
      exists_of_lookup h.isBuilt.forall₂ hlookup
    have hname := canonicalName?_of_get? hget
    refine ⟨rules, hcompile, hget, ?_, hname⟩
    unfold resolve?
    rw [hname, Option.bind_some]
    exact hget
  · intro n t hn ht hmem
    have hname : r.canonicalName? n = some t := by
      unfold canonicalName?
      rw [if_neg (h.contains_iff.not.2 hn), h.aliases_eq,
        Entries.lookup_collect, ht]
      simp [h.contains_iff.2 hmem]
    refine ⟨hname, ?_⟩
    unfold resolve?
    rw [hname, Option.bind_some]
  · intro n hn ht
    have hname : r.canonicalName? n = none := by
      unfold canonicalName?
      rw [if_neg (h.contains_iff.not.2 hn), h.aliases_eq,
        Entries.lookup_collect, Option.filter_eq_none_iff]
      intro t htarget hcontains
      exact ht t htarget (h.contains_iff.1 hcontains)
    refine ⟨hname, ?_⟩
    unfold resolve?
    rw [hname, Option.bind_none]

/-- What a name stands for stands for itself. -/
theorem canonicalName?_idem (h : r.canonicalName? n = some c) :
    r.canonicalName? c = some c ∧ c ∈ r.names := by
  have hc : r.contains c = true := by
    unfold canonicalName? at h
    split at h
    · next hn =>
      cases h
      exact hn
    · exact (Option.filter_eq_some_iff.1 h).2
  refine ⟨?_, contains_iff.1 hc⟩
  unfold canonicalName?
  rw [if_pos hc]

/-- A name that is known selects the same rules everywhere. -/
theorem selects_of_resolve? (h : r.resolve? n = some rules) :
    r.Selects n rules := by
  have hresolve := h
  unfold resolve? at h
  obtain ⟨c, hname, hget⟩ := Option.bind_eq_some_iff.1 h
  have hc := (canonicalName?_idem hname).1
  refine ⟨⟨c, hname, hget, ?_⟩, ?_, ?_⟩
  · rintro s rfl
    unfold Settings.rules?
    rw [hname]
    show (s.registry.get? c >>= fun rules => some (c, rules)) = _
    rw [hget]
    rfl
  · intro source
    unfold Html.ofSourceIn
    rw [hresolve]
  · intro hne find? uri d hd hn
    have hlanguage : Workspace.language? r uri d.languageId = some c := by
      unfold Workspace.language?
      rw [hn]
      simp only [if_neg hne, hname]
      rfl
    have hrules : (some c).bind r.resolve? = some rules := by
      unfold resolve?
      rw [Option.bind_some, hc, Option.bind_some]
      exact hget
    unfold Workspace.semantic?
    rw [hd, Option.map_some, hlanguage, hrules]

/-- An empty name counts as none given. -/
theorem language?_empty (r : Registry) (uri : Text) :
    Workspace.language? r uri ""
      = Language.ofPath? (.ofText (Workspace.lastPart uri)) := by
  unfold Workspace.language?
  simp only [↓reduceIte, Option.orElse_eq_orElse, Option.orElse_none]

-- ========================================================== the result

/-- Whatever its history, a registry makes of names what was last given
for them, and so did every registry that it was extended from. Names lead
to languages that stand for themselves, and a known name selects the same
rules wherever it is used; only an editor that gives an empty name is taken
to give none. One extension by all that was given does the same. -/
theorem resolves_of_grows (specs : Entries String Spec)
    (aliases : Entries String String) (gs : List Giving) (first r : Registry)
    (hspecs : (Entries.keys specs).Nodup)
    (haliases : (Entries.keys aliases).Nodup)
    (hb : (build specs aliases).2 = .ok first) (hg : Grows first gs r) :
    Resolves (specsGiven specs gs) (aliasesGiven aliases gs) r
      ∧ (∀ n c, r.canonicalName? n = some c →
          r.canonicalName? c = some c ∧ c ∈ r.names)
      ∧ (∀ n rules, r.resolve? n = some rules → r.Selects n rules)
      ∧ (∀ uri, Workspace.language? r uri ""
          = Language.ofPath? (.ofText (Workspace.lastPart uri)))
      ∧ (first.extend (collect (gs.flatMap Giving.specs))
          (collect (gs.flatMap Giving.aliases))).2 = .ok r
      ∧ ∀ before after, gs = before ++ after →
          ∃ m, Grows first before m ∧ Grows m after r
            ∧ Resolves (specsGiven specs before)
              (aliasesGiven aliases before) m := by
  have hr := hg.holds hspecs haliases hb
  refine ⟨hr.resolves, fun n c => canonicalName?_idem,
    fun n rules => selects_of_resolve?, language?_empty r, ?_, ?_⟩
  -- Both registries are built from the same table of all that was given.
  · have hfirst := Grows.refl.holds hspecs haliases hb
    unfold Registry.extend
    rw [hfirst.specs_eq, hfirst.aliases_eq, Entries.putAll_collect,
      Entries.putAll_collect, ← Entries.collect_append,
      ← Entries.collect_append]
    have hbuilt := hr.isBuilt
    unfold IsBuilt at hbuilt
    rw [hr.specs_eq, hr.aliases_eq] at hbuilt
    simpa only [specsGiven, aliasesGiven, List.flatMap_nil, List.append_nil]
      using hbuilt
  · rintro before after rfl
    obtain ⟨m, hm, hmr⟩ := hg.of_append
    exact ⟨m, hm, hmr, (hm.holds hspecs haliases hb).resolves⟩

/-- An alias for a language that is only given later. -/
theorem grows_late_target :
    ∃ first r, (build [("x", {})] [("y", "z")]).2 = .ok first
      ∧ Grows first [⟨[("z", {})], []⟩] r
      ∧ first.canonicalName? "y" = none ∧ r.canonicalName? "y" = some "z" := by
  have hsome : ((build [("x", {})] [("y", "z")]).2.toOption.bind fun first =>
      (first.extend [("z", {})] []).2.toOption).isSome := by
    decide +kernel
  obtain ⟨r, hr⟩ := Option.isSome_iff_exists.1 hsome
  obtain ⟨first, hfirst, hextend⟩ := Option.bind_eq_some_iff.1 hr
  have hb := eq_ok_of_toOption hfirst
  have hg : Grows first [⟨[("z", {})], []⟩] r :=
    .extend .refl (eq_ok_of_toOption hextend)
  obtain ⟨hbefore, -⟩ := resolves_of_grows [("x", {})] [("y", "z")] [] first
    first (by decide) (by decide) hb .refl
  obtain ⟨hafter, -⟩ := resolves_of_grows [("x", {})] [("y", "z")]
    [⟨[("z", {})], []⟩] first r (by decide) (by decide) hb hg
  have hnone : lastGiven (aliasesGiven [("y", "z")] []) "y" = some "z" := by
    decide
  refine ⟨first, r, hb, hg, (hbefore.unknown "y" (by decide) ?_).1,
    (hafter.otherName "y" "z" (by decide) (by decide) (by decide)).1⟩
  intro t ht
  rw [hnone] at ht
  cases ht
  decide

-- ====================================================== the empty name

/-- A registry of one language, with one keyword and without a name. -/
def nameless : Registry :=
  (build [("", { keywords := some ["x".toList] })] []).2.toOption.get
    (by decide +kernel)

/-- A language without a name is known by its name, but an editor that
gives this name gets nothing marked. -/
theorem editor_misses_nameless :
    (build [("", { keywords := some ["x".toList] })] []).2 = .ok nameless
      ∧ nameless.canonicalName? "" = some ""
      ∧ (nameless.resolve? "").map (Semantic.ofSource · "x".toList)
        = some (.ok [0, 0, 1, 0, 0])
      ∧ Workspace.semantic? (fun _ => some ⟨"", "x".toList⟩) nameless
          "file:///a".toList = some (.ok []) := by
  refine ⟨eq_ok_get _, ?_, ?_, ?_⟩
  all_goals decide +kernel

end Registry

end Highlight
