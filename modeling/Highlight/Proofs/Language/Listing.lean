/-
The listing of the languages, and how far it agrees with what names stand
for.

Every language has one entry, in the order of the names, with its aliases
behind it in the same order and each of them once (`listing_of_reached`).
Which aliases these are is read off the map of aliases alone. A name that
stands for a language is among them. But an alias is listed also if a
language has it for its name, and that language is what it stands for
(`listing_shows_language`).
-/
import Highlight.Proofs.Language.History

namespace Highlight

-- ========================================================== vocabulary

namespace Registry

/-- The registries that there are: the known one, that of a configuration,
and what these are extended to. -/
inductive Reached : Registry → Prop
  | default : Reached .default
  | configured {t : Config.Table} {r : Registry}
    (h : (Config.registry? t).2 = .ok (some r)) : Reached r
  | extended {r r' : Registry} {specs : Entries String Spec}
    {aliases : Entries String String} (h : Reached r)
    (he : (r.extend specs aliases).2 = .ok r') : Reached r'

/-- What is printed of a language. -/
def entry (name : String) : List String → String
  | [] => name
  | as => name ++ " (" ++ ", ".intercalate as ++ ")"

/-- No name and no alias goes over a line end. -/
def IsOneLine (r : Registry) : Prop :=
  ∀ n, n ∈ r.names ∨ n ∈ Entries.keys r.aliases → '\n' ∉ n.toList

/-- The listing has an entry for every language, with some aliases each.
Strings are ordered by their characters, and those by their code points.
An alias of another name is listed if it stands for the language, or if it
would do so but for a language of its own name. -/
structure IsListed (r : Registry) (ns : List String)
    (as : String → List String) : Prop where
  text_eq : r.listing = String.join (ns.map fun n => entry n (as n) ++ "\n")
  lines_eq : r.IsOneLine → Text.lines r.listing.toList
    = ns.map (fun n => (entry n (as n)).toList) ++ [[]]
  ascending : ns.Pairwise (· < ·)
  mem_iff : ∀ n, n ∈ ns ↔ r.contains n = true
  aliases_ascending : ∀ n ∈ ns, (as n).Pairwise (· < ·)
  mem_aliases_iff : ∀ n ∈ ns, ∀ a, a ≠ n →
    (a ∈ as n ↔ r.canonicalName? a = some n
      ∨ (r.contains a = true ∧ r.aliases.lookup a = some n))

end Registry

-- =============================================================== texts

namespace Text

/-- A character that is nowhere in the parts is not in the joined text. -/
theorem not_mem_intercalate {c : Char} {sep : Text} {ts : List Text}
    (hsep : c ∉ sep) (hts : ∀ t ∈ ts, c ∉ t) : c ∉ sep.intercalate ts := by
  induction ts with
  | nil => exact List.not_mem_nil
  | cons t ts ih =>
      obtain ⟨ht, hts⟩ := List.forall_mem_cons.1 hts
      cases ts with
      | nil => rwa [List.intercalate_singleton]
      | cons u us =>
          rw [List.intercalate_cons_cons]
          simp only [List.mem_append, not_or]
          exact ⟨⟨ht, hsep⟩, ih hts⟩

/-- Texts of one line each, with a line feed behind every one. -/
theorem lines_flatMap_lineFeed {ts : List Text} (h : ∀ t ∈ ts, '\n' ∉ t) :
    lines (ts.flatMap (· ++ ['\n'])) = ts ++ [[]] := by
  induction ts with
  | nil => rfl
  | cons t ts ih =>
      obtain ⟨ht, hts⟩ := List.forall_mem_cons.1 h
      rw [List.flatMap_cons, List.append_assoc, List.singleton_append,
        lines_append_lineFeed _ ht, ih hts, List.cons_append]

end Text

-- ============================================================== sorting

/-- In a map without repeated keys every entry is found. -/
theorem Entries.mem_iff_lookup {κ β : Type} [BEq κ] [LawfulBEq κ]
    {es : Entries κ β} {k : κ} {v : β} (h : (keys es).Nodup) :
    (k, v) ∈ es ↔ es.lookup k = some v := by
  constructor
  · intro hmem
    obtain ⟨l₁, l₂, rfl⟩ := List.append_of_mem hmem
    have hkeys : (keys l₁ ++ k :: keys l₂).Nodup := by
      simpa [keys] using h
    refine List.lookup_eq_some_iff.2 ⟨l₁, l₂, rfl, fun e he => ?_⟩
    refine bne_iff_ne.2 fun heq => ?_
    exact List.disjoint_of_nodup_append hkeys
      (heq ▸ List.mem_map_of_mem he) List.mem_cons_self
  · intro hlookup
    obtain ⟨l₁, l₂, rfl, -⟩ := List.lookup_eq_some_iff.1 hlookup
    exact List.mem_append_right l₁ List.mem_cons_self

namespace Registry

variable {l : List String} {a n name : String} {r : Registry}

theorem mem_sorted : a ∈ sorted l ↔ a ∈ l := List.mem_mergeSort

/-- Without repetitions sorting leaves no two that are equal. -/
theorem pairwise_sorted (h : l.Nodup) : (sorted l).Pairwise (· < ·) := by
  have hle : (sorted l).Pairwise (· ≤ ·) := by
    refine (List.pairwise_mergeSort ?_ ?_ l).imp of_decide_eq_true
    · intro a b c hab hbc
      exact decide_eq_true (String.le_trans (of_decide_eq_true hab)
        (of_decide_eq_true hbc))
    · intro a b
      simpa using String.le_total a b
  have hne : (sorted l).Nodup := (List.mergeSort_perm l _).nodup_iff.2 h
  refine hle.imp₂ (fun a b hab hne => ?_) hne
  exact String.not_le.1 fun hba => hne (String.le_antisymm hab hba)

-- ============================================================= aliases

/-- The aliases of a language are those that the table maps to it. -/
theorem mem_aliasesOf (h : (Entries.keys r.aliases).Nodup) :
    a ∈ r.aliasesOf n ↔ r.aliases.lookup a = some n := by
  unfold aliasesOf
  rw [mem_sorted, ← Entries.mem_iff_lookup h]
  simp

/-- They are in order, without repetitions. -/
theorem pairwise_aliasesOf (h : (Entries.keys r.aliases).Nodup) (n : String) :
    (r.aliasesOf n).Pairwise (· < ·) :=
  pairwise_sorted (h.sublist (List.filter_sublist.map Prod.fst))

/-- What another name stands for is its target, unless it is a language's
own name. -/
theorem canonicalName?_eq_some_iff (hn : r.contains n = true) (hne : a ≠ n) :
    r.canonicalName? a = some n
      ↔ r.contains a = false ∧ r.aliases.lookup a = some n := by
  unfold canonicalName?
  cases ha : r.contains a with
  | true => simpa using hne
  | false => simp [Option.filter_eq_some_iff, hn]

-- =============================================================== lines

/-- A line of the listing names a language with its aliases. -/
theorem listingLine_eq (r : Registry) (n : String) :
    r.listingLine n = entry n (r.aliasesOf n) ++ "\n" := by
  unfold listingLine entry
  cases r.aliasesOf n with
  | nil => rfl
  | cons a as => simp [String.append_assoc]

/-- An entry is one line if the names are. -/
theorem lineFeed_not_mem_entry {as : List String} (hn : '\n' ∉ n.toList)
    (has : ∀ a ∈ as, '\n' ∉ a.toList) : '\n' ∉ (entry n as).toList := by
  unfold entry
  cases as with
  | nil => exact hn
  | cons a as =>
      have hrest : '\n' ∉ ", ".toList.intercalate
          ((a :: as).map String.toList) :=
        Text.not_mem_intercalate (by decide) (List.forall_mem_map.2 has)
      simp only [String.toList_append, String.toList_intercalate,
        List.mem_append, not_or]
      exact ⟨⟨⟨hn, by decide⟩, hrest⟩, by decide⟩

-- ============================================================ registries

/-- The registry at the start holds the languages and aliases that come
along. -/
theorem holds_default :
    Holds Language.builtins Language.aliases .default := by
  have hgrown := Grows.refl.holds (by decide) (by decide) build_default
  simpa [specsGiven, aliasesGiven] using hgrown

/-- So its languages are those that come along. -/
theorem contains_default :
    Registry.default.contains n = true ↔ n ∈ Entries.keys Language.builtins :=
  holds_default.contains_iff

/-- Its aliases are found as in the table that comes along. -/
theorem lookup_aliases_default :
    Registry.default.aliases.lookup a = Language.aliases.lookup a := by
  rw [holds_default.aliases_eq, Entries.collect_of_nodup (by decide)]

/-- Every registry holds what was given to it. -/
theorem Reached.exists_holds (h : Reached r) :
    ∃ specs aliases, Holds specs aliases r := by
  induction h with
  | default => exact ⟨_, _, holds_default⟩
  | configured h =>
      obtain ⟨_, _, hextend⟩ := exists_extend_of_registry? h
      exact ⟨_, _, holds_default.extend hextend⟩
  | extended _ he ih =>
      obtain ⟨_, _, hr⟩ := ih
      exact ⟨_, _, hr.extend he⟩

/-- No language is named twice. -/
theorem Holds.nodup_names {specs : List (String × Spec)}
    {aliases : List (String × String)} (h : Holds specs aliases r) :
    r.names.Nodup := by
  rw [h.isBuilt.names_eq, h.specs_eq]
  exact Entries.nodup_keys_collect

/-- Nor is any alias. -/
theorem Holds.nodup_aliases {specs : List (String × Spec)}
    {aliases : List (String × String)} (h : Holds specs aliases r) :
    (Entries.keys r.aliases).Nodup := by
  rw [h.aliases_eq]
  exact Entries.nodup_keys_collect

-- ========================================================== the result

/-- Every registry that there is lists each language once, in order, and
with it all names that stand for it. -/
theorem listing_of_reached (hr : Reached r) :
    ∃ ns as, IsListed r ns as := by
  obtain ⟨specs, aliases, hholds⟩ := hr.exists_holds
  have haliases := hholds.nodup_aliases
  have htext : r.listing = String.join
      ((sorted r.names).map fun n => entry n (r.aliasesOf n) ++ "\n") := by
    unfold listing
    rw [funext r.listingLine_eq]
  refine ⟨sorted r.names, r.aliasesOf, htext, fun hone => ?_,
    pairwise_sorted hholds.nodup_names, fun n => ?_,
    fun n _ => pairwise_aliasesOf haliases n, fun n hn a hne => ?_⟩
  · have hentries : ∀ t ∈ (sorted r.names).map
        fun n => (entry n (r.aliasesOf n)).toList, '\n' ∉ t := by
      refine List.forall_mem_map.2 fun n hn => ?_
      refine lineFeed_not_mem_entry (hone n (.inl (mem_sorted.1 hn)))
        fun a ha => hone a (.inr ?_)
      rw [mem_aliasesOf haliases, ← Entries.mem_iff_lookup haliases] at ha
      exact List.mem_map_of_mem ha
    have hlines := Text.lines_flatMap_lineFeed hentries
    rw [List.flatMap_map] at hlines
    rw [htext, String.toList_join, List.flatMap_map]
    simp only [String.toList_append]
    exact hlines
  · rw [mem_sorted, contains_iff]
  · rw [mem_sorted, ← contains_iff] at hn
    rw [mem_aliasesOf haliases, canonicalName?_eq_some_iff hn hne]
    cases r.contains a <;> simp

/-- The known languages with their aliases. -/
theorem listing_of_reached_default :
    Reached .default ∧ ∃ ns as, IsListed .default ns as
      ∧ "javascript" ∈ ns ∧ "js" ∈ as "javascript"
      ∧ "py" ∉ as "javascript" := by
  obtain ⟨ns, as, h⟩ := listing_of_reached .default
  have hjavascript : Registry.default.contains "javascript" = true :=
    contains_default.2 (by decide)
  have hmem := (h.mem_iff "javascript").2 hjavascript
  have hother {a : String} (ha : a ∉ Entries.keys Language.builtins) :
      Registry.default.contains a = false :=
    Bool.eq_false_iff.2 (contains_default.not.2 ha)
  refine ⟨.default, ns, as, h, hmem, ?_, ?_⟩
  · refine (h.mem_aliases_iff _ hmem _ (by decide)).2 (.inl ?_)
    rw [canonicalName?_eq_some_iff hjavascript (by decide),
      lookup_aliases_default]
    exact ⟨hother (by decide), rfl⟩
  · rw [h.mem_aliases_iff _ hmem _ (by decide),
      canonicalName?_eq_some_iff hjavascript (by decide),
      lookup_aliases_default, hother (by decide)]
    decide

/-- Further aliases leave the languages as they are. -/
theorem IsBuilt.exists_extend_aliases (hr : r.IsBuilt)
    (aliases : Entries String String) :
    ∃ log r', r.extend [] aliases = (log, .ok r') ∧ r'.names = r.names
      ∧ r'.aliases = r.aliases.putAll aliases := by
  unfold IsBuilt build at hr
  split at hr
  · cases hr
  · next log rules hrules =>
    have hlanguages : r.rules = rules := by
      rw [← Except.ok.inj hr]
    refine ⟨log ++ [builtLine (Entries.keys rules)],
      ⟨r.specs, r.aliases.putAll aliases, rules⟩, ?_, ?_, rfl⟩
    · unfold Registry.extend build
      rw [show r.specs.putAll [] = r.specs from rfl, hrules]
    · exact congrArg Entries.keys hlanguages.symm

/-- A configuration with the name of one language as an alias of another. -/
def confused : Config.Table :=
  [("aliases", .table [("python", .string "javascript")])]

/-- The configuration that maps one language to another is accepted. -/
theorem exists_registry?_confused :
    ∃ r, (Config.registry? confused).2 = .ok (some r)
      ∧ r.names = Registry.default.names
      ∧ r.aliases = Language.aliases ++ [("python", "javascript")] := by
  obtain ⟨log, r, hextend, hnames, haliases⟩ :=
    isBuilt_default.exists_extend_aliases [("python", "javascript")]
  refine ⟨r, ?_, hnames, ?_⟩
  · rw [registry?_eq (t := confused) rfl rfl rfl rfl
      (.inr (List.cons_ne_nil _ _)) hextend]
  · rw [haliases, holds_default.aliases_eq]
    rfl

/-- The name of a language is listed as an alias of another one, which it
does not stand for. -/
theorem listing_shows_language :
    ∃ r, (Config.registry? confused).2 = .ok (some r)
      ∧ r.contains "javascript" = true
      ∧ r.listingLine "javascript" = "javascript (js, python)\n"
      ∧ "python" ∈ r.aliasesOf "javascript"
      ∧ r.canonicalName? "python" = some "python" := by
  obtain ⟨r, hr, hnames, haliases⟩ := exists_registry?_confused
  have hcontains {n : String} (h : n ∈ Entries.keys Language.builtins) :
      r.contains n = true := by
    rw [contains_iff, hnames, ← contains_iff]
    exact contains_default.2 h
  have hlisted : r.aliasesOf "javascript" = ["js", "python"] := by
    unfold aliasesOf sorted
    rw [haliases]
    exact List.mergeSort_of_pairwise (by decide)
  refine ⟨r, hr, hcontains (by decide), ?_, ?_, ?_⟩
  · rw [listingLine_eq, hlisted]
    rfl
  · rw [hlisted]
    decide
  · unfold canonicalName?
    rw [if_pos (hcontains (by decide))]

end Registry

end Highlight
