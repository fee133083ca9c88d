/-
Which rules of a described language can stall a scan: its own ones alone,
and never where a line ends (`stall_of_ofTable`).

The three parts of the argument lie apart. A table is refused if it has an
empty word or delimiter (`hasWords_of_ofTable`), so the standard rules take
some text wherever they match; compiling refuses a rule that matches the
empty text, so no rule applies at the end of a line; and a stalled scan
has met a rule that applies and takes no text.
-/
import Highlight.Language.Table
import Highlight.Proofs.Language.Filled
import Highlight.Proofs.Text.Column

namespace Highlight

open Config (Table Value)
open Text (positionAt restAt lines)

namespace Spec

variable {t : Table} {language key : String} {spec : Spec}

-- ============================================================== tables

theorem word?_ne_nil {v : Value} {w : Text} (h : word? v = some w) :
    w ≠ [] := by
  unfold word? at h
  split at h
  · next s =>
    split at h
    · cases h
    · next hs =>
      cases h
      exact fun e => hs (String.toList_eq_nil_iff.1 e)
  · cases h

theorem eq_of_blame {α : Type} {e : Except Cause α} {a : α}
    (h : blame language e = .ok a) : e = .ok a := by
  unfold blame at h
  split at h
  · cases h
    rfl
  · cases h

theorem ne_nil_of_mapM_word? {vs : List Value} {ws : List Text}
    (h : vs.mapM word? = some ws) : ∀ w ∈ ws, w ≠ [] := by
  induction vs generalizing ws with
  | nil =>
      cases h
      exact fun w hw => absurd hw List.not_mem_nil
  | cons v vs ih =>
      rw [List.mapM_cons] at h
      obtain ⟨w, hw, h⟩ := Option.bind_eq_some_iff.1 h
      obtain ⟨ws', hws, h⟩ := Option.bind_eq_some_iff.1 h
      cases h
      exact List.forall_mem_cons.2 ⟨word?_ne_nil hw, ih hws⟩

/-- No word of an accepted list is empty. -/
theorem ne_nil_of_words? {ws : List Text}
    (h : words? t key = .ok (some ws)) : ∀ w ∈ ws, w ≠ [] := by
  unfold words? at h
  split at h
  · cases h
  · cases h
  · split at h
    · next hmap =>
      cases h
      exact ne_nil_of_mapM_word? hmap
    · cases h
  · cases h

/-- The checks that an accepted table has passed. -/
theorem exists_of_ofTable (h : ofTable language t = .ok spec) :
    words? t "keywords" = .ok spec.keywords
      ∧ words? t "constants" = .ok spec.constants
      ∧ words? t "builtins" = .ok spec.builtins
      ∧ ∃ vs, ruleList? t = .ok vs
        ∧ rulesOf language 0 vs = .ok spec.rules := by
  unfold ofTable at h
  split at h
  · cases h
  · obtain ⟨keywords, hkeywords, h⟩ := exists_of_bind h
    obtain ⟨constants, hconstants, h⟩ := exists_of_bind h
    obtain ⟨builtins, hbuiltins, h⟩ := exists_of_bind h
    obtain ⟨doubleString, -, h⟩ := exists_of_bind h
    obtain ⟨singleString, -, h⟩ := exists_of_bind h
    obtain ⟨commentDelimiter, -, h⟩ := exists_of_bind h
    obtain ⟨vs, hvs, h⟩ := exists_of_bind h
    obtain ⟨rules, hrules, h⟩ := exists_of_bind h
    cases h
    exact ⟨eq_of_blame hkeywords, eq_of_blame hconstants,
      eq_of_blame hbuiltins, vs, eq_of_blame hvs, hrules⟩

theorem hasWords_of_ofTable (h : ofTable language t = .ok spec) :
    spec.HasWords := by
  obtain ⟨hkeywords, hconstants, hbuiltins, -⟩ := exists_of_ofTable h
  intro ws hws
  have hmem := List.reduceOption_mem_iff.1 hws
  simp only [List.mem_cons, List.not_mem_nil, or_false] at hmem
  rcases hmem with heq | heq | heq
  · exact ne_nil_of_words? (heq ▸ hkeywords)
  · exact ne_nil_of_words? (heq ▸ hconstants)
  · exact ne_nil_of_words? (heq ▸ hbuiltins)

/-- A table that lists no rules describes a language without any. -/
theorem rules_eq_nil_of_ofTable (h : ofTable language t = .ok spec)
    (hnone : ∀ vs, t.lookup "rules" = some (.list vs) → vs = []) :
    spec.rules = [] := by
  obtain ⟨-, -, -, vs, hvs, hrules⟩ := exists_of_ofTable h
  have hnil : vs = [] := by
    unfold ruleList? at hvs
    split at hvs
    · cases hvs
      rfl
    · next vs' hlookup =>
      cases hvs
      exact hnone _ hlookup
    · cases hvs
  subst hnil
  exact (Except.ok.inj hrules).symm

end Spec

-- ============================================================= stalls

/-- A stall before the end of a line, at a rule of the language's own. -/
structure Stall.IsOwn (spec : Spec) (source : Text) (s : Stall) : Prop where
  before_end : s.position.offset < source.length
  canonical : s.position = positionAt source s.position.offset
  within_line : ∃ line, (lines source)[s.position.row]? = some line
    ∧ s.position.col < line.length
  rule_pos : 1 ≤ s.rule
  rule_le : s.rule ≤ spec.rules.length
  /-- The rule of that number, once it is anchored, takes no text there. -/
  culprit : ∃ r p, spec.rules[s.rule - 1]? = some r
    ∧ r.opening.anchor = .ok p
    ∧ p.matchLength? (restAt source s.position.offset) = .ok (some 0)
  message : Diagnostic.stallMessage s
    = "rule " ++ toString s.rule ++ " matched empty text"

/-- What stalls a scan is a rule of the language's own. -/
theorem isOwn_of_stall {spec : Spec} {name : String} {rules : List Rule}
    (hspec : spec.HasWords) (hc : spec.compile name = .ok rules)
    {source : Text} {s : Stall}
    (h : tokenize rules source = .error (.stall s)) :
    s.IsOwn spec source := by
  obtain ⟨k, position⟩ := s
  obtain ⟨o, rule, ho, hposition, hf⟩ := Scan.exists_isFirst_of_stall h
  dsimp only at hposition hf
  subst hposition
  have hrest : restAt source o ≠ [] := by
    intro hnil
    have hm := hf.matches_here
    rw [hnil, Spec.unmatched_nil_of_compile hc rule
      (List.mem_of_getElem? hf.rule_eq)] at hm
    cases hm
  obtain ⟨hpos, hle, own, hown, p, hp, -, rfl⟩ :=
    Spec.own_of_matches_empty hspec hc hf.rule_eq hf.matches_here
  have hm := hf.matches_here
  rw [Rule.opening_withOpening] at hm
  exact {
    before_end := ho
    canonical := rfl
    within_line := Text.exists_col_lt (Nat.le_of_lt ho) hrest
    rule_pos := hpos
    rule_le := hle
    culprit := ⟨own, p, hown, hp, hm⟩
    message := rfl }

-- =========================================================== the result

/-- With a language that was described by a table, a scan stalls only at a
rule that the table lists, and never where a line ends. Without such
rules every scan comes to its end. -/
theorem stall_of_ofTable (language name : String) (t : Table) (spec : Spec)
    (rules : List Rule) (ht : Spec.ofTable language t = .ok spec)
    (hc : spec.compile name = .ok rules) (source : Text) :
    (∀ s, tokenize rules source = .error (.stall s) → s.IsOwn spec source)
      ∧ ((∀ vs, t.lookup "rules" = some (.list vs) → vs = []) →
        ∃ ts, tokenize rules source = .ok ts) := by
  have hspec := Spec.hasWords_of_ofTable ht
  refine ⟨fun s h => isOwn_of_stall hspec hc h, fun hnone => ?_⟩
  have hnil := Spec.rules_eq_nil_of_ofTable ht hnone
  refine Scan.exists_tokenize_of_filled
    (Spec.isFilled_of_compile hspec (fun r hr => ?_) hc) source
  rw [hnil] at hr
  cases hr

/-- A rule that looks ahead passes the check of the compiler and stalls
behind a blank; words of signs alone stall no scan. -/
theorem stall_of_ofTable_ahead :
    (∃ spec rules s,
      Spec.ofTable "ahead"
          [("rules", .list [.table [("pattern", .string "(?=x)")]])]
          = .ok spec
        ∧ spec.compile "ahead" = .ok rules
        ∧ tokenize rules " x".toList = .error (.stall s)
        ∧ s.IsOwn spec " x".toList)
      ∧ ∃ spec rules ts,
        Spec.ofTable "signs" [("keywords", .list [.string "|("])] = .ok spec
          ∧ spec.compile "signs" = .ok rules
          ∧ tokenize rules "|(a".toList = .ok ts := by
  constructor
  · have hrun : ((Spec.ofTable "ahead"
          [("rules", .list [.table [("pattern", .string "(?=x)")]])]
        ).toOption.bind fun spec => (spec.compile "ahead").toOption.map
          fun rules => tokenize rules " x".toList)
        = some (.error (.stall ⟨1, ⟨0, 1, 1⟩⟩)) := by
      decide +kernel
    obtain ⟨spec, hspec, hrun⟩ := Option.bind_eq_some_iff.1 hrun
    obtain ⟨rules, hrules, hrun⟩ := Option.map_eq_some_iff.1 hrun
    have ht := eq_ok_of_toOption hspec
    have hc := eq_ok_of_toOption hrules
    exact ⟨spec, rules, _, ht, hc, hrun,
      (stall_of_ofTable _ _ _ spec rules ht hc _).1 _ hrun⟩
  · have hrun : ((Spec.ofTable "signs" [("keywords", .list [.string "|("])]
        ).toOption.bind fun spec => (spec.compile "signs").toOption).isSome
        := by
      decide +kernel
    obtain ⟨rules, hrun⟩ := Option.isSome_iff_exists.1 hrun
    obtain ⟨spec, hspec, hrules⟩ := Option.bind_eq_some_iff.1 hrun
    have ht := eq_ok_of_toOption hspec
    have hc := eq_ok_of_toOption hrules
    obtain ⟨ts, hts⟩ := (stall_of_ofTable _ _ _ spec rules ht hc
      "|(a".toList).2 fun vs h => by cases h
    exact ⟨spec, rules, ts, ht, hc, hts⟩

end Highlight
