/-
What compiling a language comes to: the list of its rules, or the rule of
its own that is to blame.

The standard rules cannot fail, so the list is there as soon as every rule
of the language's own can be anchored and then matches no empty text. The
rules stand in a fixed order, with a place for every kind of them
(`Spec.Layout`). Otherwise the first rule that offends is blamed, by its
number and with its own text (`Spec.compile_or_blame`). But no language is
blamed where the compiler of patterns runs out of room for the anchor
(`Spec.compile_unblamed_nested`).

A pattern that compiles is refused with an anchor for three reasons only,
which can all be told from the pattern itself: flags that come late, a
comment that runs up to the end, groups that are nested too deep
(`Spec.anchors_unless_hindered`).
-/
import Highlight.Proofs.Language.Stall
import Highlight.Proofs.Language.Standard
import Highlight.Proofs.Language.Table
import Highlight.Proofs.Regex.Nested

namespace Highlight

open List (Forall₂)
open Pattern (Hindrance)

-- ========================================================== vocabulary

/-- The pattern is what its own text is compiled to, under some flags. -/
def Pattern.IsCompiled (p : Pattern) : Prop :=
  ∃ fs, Pattern.compile p.text fs = .ok p

/-- A pattern that comes from the compiler is what its text is compiled to.
-/
theorem Pattern.isCompiled_of_compile {t : Text} {fs : Regex.Flags}
    {p : Pattern} (h : Pattern.compile t fs = .ok p) : p.IsCompiled := by
  obtain ⟨s, -, -, rfl, -⟩ := exists_of_compile h
  exact ⟨fs, h⟩

namespace Rule

/-- The rule cannot be anchored, or matches the empty text then. -/
def Offends (r : Rule) : Prop := ¬ ∃ r', r.Anchors r'

/-- How a rule of a language is blamed that offends. -/
inductive Blamed (language : String) (i : Nat) (r : Rule) :
    Spec.Failure → Prop
  | unanchored {f : Regex.Fault} {place : Option Nat}
    (h : r.opening.anchor = .error (.fault f place)) :
    Blamed language i r (.language {
      cause := .badPattern f, language, rule := some i,
      pattern := some r.opening.text })
  | matchesEmpty {p : Pattern} (h : r.opening.anchor = .ok p)
    (hm : p.matchLength? [] ≠ .ok none) :
    Blamed language i r (.language {
      cause := .matchesEmpty, language, rule := some i,
      pattern := some r.opening.text })
  /-- The compiler of patterns has no room for a group around this one. -/
  | tooDeep (h : r.opening.anchor = .error .tooDeep) :
    Blamed language i r (.pattern .tooDeep)

/-- The blame names the rule. -/
theorem Blamed.rule_eq {language : String} {i : Nat} {r : Rule}
    {f : Spec.Fault} (h : r.Blamed language i (.language f)) :
    f.rule = some i := by
  cases h <;> rfl

end Rule

namespace Spec

/-- The rules of a compiled language by their places. -/
structure Layout where
  blank : Rule
  own : List Rule
  keywords : Option Rule
  constants : Option Rule
  builtins : Option Rule
  number : Rule
  strings : Option Rule
  comment : Option Rule
  wordRun : Rule

/-- The rules in the order in which they are tried. -/
def Layout.rules (l : Layout) : List Rule :=
  l.blank :: l.own ++ (l.keywords.toList ++ (l.constants.toList
    ++ (l.builtins.toList ++ (l.number :: (l.strings.toList
    ++ (l.comment.toList ++ [l.wordRun]))))))

/-- The pattern of the strings that a language has. -/
def stringsPattern? (s : Spec) : Option Text :=
  match s.doubleString, s.singleString with
  | false, false => none
  | true, false => some doubleStringPattern
  | false, true => some singleStringPattern
  | true, true => some (doubleStringPattern ++ '|' :: singleStringPattern)

/-- Every place holds what the description asks for. -/
structure Layout.Suits (l : Layout) (s : Spec) : Prop where
  blank : Standard (blankPattern, none) l.blank
  own : Forall₂ Rule.Anchors s.rules l.own
  keywords : Option.Rel (fun ws => Standard (wordsPattern ws, some "keyword"))
    (s.keywords.filter (· ≠ [])) l.keywords
  constants : Option.Rel (fun ws => Standard (wordsPattern ws, some "value"))
    (s.constants.filter (· ≠ [])) l.constants
  builtins : Option.Rel (fun ws => Standard (wordsPattern ws, some "builtin"))
    (s.builtins.filter (· ≠ [])) l.builtins
  number : Standard (numberPattern, some "value") l.number
  strings : Option.Rel (fun t => Standard (t, some "string"))
    s.stringsPattern? l.strings
  comment : Option.Rel (fun d => Standard (commentPattern d, some "comment"))
    (s.commentDelimiter.filter (· ≠ [])) l.comment
  wordRun : Standard (wordRunPattern, none) l.wordRun

end Spec

-- ============================================================== layout

/-- What comes first may be missing in both lists. -/
theorem exists_of_forall₂_toList {α β γ : Type} {R : β → γ → Prop}
    {f : α → β} {o : Option α} {bs : List β} {cs : List γ}
    (h : Forall₂ R (o.toList.map f ++ bs) cs) :
    ∃ (o' : Option γ) (cs' : List γ), cs = o'.toList ++ cs'
      ∧ Option.Rel (fun a => R (f a)) o o' ∧ Forall₂ R bs cs' := by
  cases o with
  | none => exact ⟨none, cs, rfl, .none, h⟩
  | some a =>
      cases h with
      | cons hab h => exact ⟨some _, _, rfl, .some hab, h⟩

/-- What is in its place has been asked for. -/
theorem exists_of_rel_right {α β : Type} {R : α → β → Prop} {b : β}
    {o : Option α} (h : Option.Rel R o (some b)) :
    ∃ a, o = some a ∧ R a b := by
  cases h with
  | some h => exact ⟨_, rfl, h⟩

/-- What is asked for is in its place. -/
theorem exists_of_rel_left {α β : Type} {R : α → β → Prop} {a : α}
    {o : Option β} (h : Option.Rel R (some a) o) :
    ∃ b, o = some b ∧ R a b := by
  cases h with
  | some h => exact ⟨_, rfl, h⟩

namespace Spec

variable {spec : Spec} {language : String} {rules : List Rule} {r : Rule}
  {i : Nat}

/-- An empty list of words makes no rule. -/
theorem wordsRule_eq (ws : Option (List Text)) (label : String) :
    wordsRule ws label = (ws.filter (· ≠ [])).toList.map
      fun ws => (wordsPattern ws, some label) := by
  rcases ws with _ | _ | ⟨w, ws⟩ <;> rfl

/-- The patterns behind a language's own rules, kind by kind. -/
theorem standard_eq (s : Spec) :
    s.standard
      = (s.keywords.filter (· ≠ [])).toList.map
          (fun ws => (wordsPattern ws, some "keyword"))
        ++ ((s.constants.filter (· ≠ [])).toList.map
          (fun ws => (wordsPattern ws, some "value"))
        ++ ((s.builtins.filter (· ≠ [])).toList.map
          (fun ws => (wordsPattern ws, some "builtin"))
        ++ (numberPattern, some "value")
        :: (s.stringsPattern?.toList.map (fun t => (t, some "string"))
        ++ ((s.commentDelimiter.filter (· ≠ [])).toList.map
          (fun d => (commentPattern d, some "comment"))
        ++ [(wordRunPattern, none)])))) := by
  obtain ⟨keywords, constants, builtins, double, single, delimiter, rules⟩
    := s
  unfold standard
  rw [wordsRule_eq, wordsRule_eq, wordsRule_eq]
  simp only [List.append_assoc, List.singleton_append]
  rcases delimiter with _ | _ | ⟨c, d⟩ <;> cases double <;> cases single
    <;> rfl

/-- The rules of a compiled language have their places. -/
theorem exists_layout (h : spec.compile language = .ok rules) :
    ∃ l : Layout, rules = l.rules ∧ l.Suits spec := by
  obtain ⟨blank, own, standard, rfl, hblank, hown, hstandard⟩ :=
    exists_of_compile h
  rw [standard_eq] at hstandard
  obtain ⟨keywords, _, rfl, hkeywords, h₁⟩ :=
    exists_of_forall₂_toList hstandard
  obtain ⟨constants, _, rfl, hconstants, h₂⟩ := exists_of_forall₂_toList h₁
  obtain ⟨builtins, _, rfl, hbuiltins, h₃⟩ := exists_of_forall₂_toList h₂
  obtain ⟨number, _, hnumber, h₄, rfl⟩ := List.forall₂_cons_left_iff.1 h₃
  obtain ⟨strings, _, rfl, hstrings, h₅⟩ := exists_of_forall₂_toList h₄
  obtain ⟨comment, _, rfl, hcomment, h₆⟩ := exists_of_forall₂_toList h₅
  obtain ⟨wordRun, _, hrun, h₇, rfl⟩ := List.forall₂_cons_left_iff.1 h₆
  cases h₇
  exact ⟨⟨blank, own, keywords, constants, builtins, number, strings,
    comment, wordRun⟩, rfl, hblank, hown, hkeywords, hconstants,
    hbuiltins, hnumber, hstrings, hcomment, hrun⟩

-- =============================================================== blame

/-- A rule that offends is blamed. -/
theorem anchored_of_offends (language : String)
    (hr : r.opening.IsCompiled) (h : r.Offends) (i : Nat) :
    ∃ e, anchored language (some i) r = .error e
      ∧ r.Blamed language i e := by
  obtain ⟨fs, hfs⟩ := hr
  unfold anchored
  dsimp only
  rcases Pattern.anchor_cases hfs with ⟨ns, -, hanchor, -⟩ | ⟨e, herror, he⟩
  · rw [hanchor]
    dsimp only
    split
    · next hm => exact absurd ⟨_, _, hanchor, hm, rfl⟩ h
    · next hm => exact ⟨_, rfl, .matchesEmpty hanchor hm⟩
  · rw [herror]
    cases he with
    | flags => exact ⟨_, rfl, .unanchored herror⟩
    | comment => exact ⟨_, rfl, .unanchored herror⟩
    | depth => exact ⟨_, rfl, .tooDeep herror⟩

/-- A language compiles if no rule of its own offends. -/
theorem exists_compile (language : String)
    (h : ∀ r ∈ spec.rules, ¬ r.Offends) :
    ∃ rules, spec.compile language = .ok rules := by
  obtain ⟨blank, standard, -, -, heq⟩ := compile_eq spec language
  obtain ⟨own, hown⟩ := exists_mapM (l := spec.rules.zipIdx)
    (f := fun ri => anchored language (some ri.2) ri.1) fun ri hri => by
      obtain ⟨r', hr'⟩ := not_not.1 (h _ (List.fst_mem_of_mem_zipIdx hri))
      exact ⟨r', anchored_of_anchors hr' _⟩
  rw [heq, hown]
  exact ⟨_, rfl⟩

/-- The first rule that offends makes the whole fail. -/
theorem compile_of_firstFault (language : String)
    (hspec : ∀ r ∈ spec.rules, r.opening.IsCompiled)
    (h : FirstFault Rule.Offends spec.rules i r) :
    ∃ e, spec.compile language = .error e ∧ r.Blamed language i e := by
  obtain ⟨blank, standard, -, -, heq⟩ := compile_eq spec language
  obtain ⟨e, he, hblamed⟩ := anchored_of_offends language
    (hspec r (List.mem_of_getElem? h.member)) h.faulty i
  refine ⟨e, ?_, hblamed⟩
  rw [heq, mapM_of_firstFault (f := fun i r => anchored language (some i) r)
    (fun i r hr => ?_) h ((Nat.zero_add i).symm ▸ he)]
  · rfl
  · obtain ⟨r', hr'⟩ := not_not.1 hr
    exact ⟨r', anchored_of_anchors hr' _⟩

/-- A language that fails to compile has a rule that offends. -/
theorem exists_blamed (hspec : ∀ r ∈ spec.rules, r.opening.IsCompiled)
    {e : Failure} (h : spec.compile language = .error e) :
    ∃ i r, FirstFault Rule.Offends spec.rules i r
      ∧ r.Blamed language i e := by
  by_cases hall : ∀ r ∈ spec.rules, ¬ r.Offends
  · obtain ⟨rules, hrules⟩ := exists_compile language hall
    cases hrules.symm.trans h
  · obtain ⟨i, r, hfirst⟩ := FirstFault.exists_of_not_forall hall
    obtain ⟨e', he', hblamed⟩ :=
      compile_of_firstFault language hspec hfirst
    cases he'.symm.trans h
    exact ⟨i, r, hfirst, hblamed⟩

/-- Compiling a language gives the rules in their places, or it blames the
first rule of the language's own that offends. The standard rules never
fail. -/
theorem compile_or_blame (hspec : ∀ r ∈ spec.rules, r.opening.IsCompiled) :
    ((∃ rules, spec.compile language = .ok rules)
        ↔ ∀ r ∈ spec.rules, ¬ r.Offends)
      ∧ (∀ rules, spec.compile language = .ok rules →
        (∃ l : Layout, rules = l.rules ∧ l.Suits spec)
          ∧ ∀ r ∈ rules, r.opening.matchLength? [] = .ok none)
      ∧ ∀ e, spec.compile language = .error e →
        ∃ i r, FirstFault Rule.Offends spec.rules i r
          ∧ r.Blamed language i e := by
  refine ⟨⟨?_, exists_compile language⟩, fun rules h =>
    ⟨exists_layout h, unmatched_nil_of_compile h⟩,
    fun e h => exists_blamed hspec h⟩
  rintro ⟨rules, h⟩ r hr hoffends
  obtain ⟨blank, own, standard, -, -, hown, -⟩ := exists_of_compile h
  obtain ⟨r', -, hr'⟩ := exists_of_mem_left hown hr
  exact hoffends ⟨r', hr'⟩

theorem isSome_letter :
    (Pattern.compile "a".toList .none).toOption.isSome :=
  Option.isSome_iff_ne_none.2 (by decide +kernel)

/-- A rule that takes a letter, and one that may take nothing. -/
def starred : Spec where
  keywords := some ["if".toList]
  rules :=
    [.simple ((Pattern.compile "a".toList .none).toOption.get isSome_letter)
        (some "letter"),
      .simple ((Pattern.compile "b*".toList .none).toOption.get
        (by decide +kernel)) none]

theorem compile_or_blame_starred :
    (∃ r, FirstFault Rule.Offends starred.rules 1 r
        ∧ r.Blamed "x" 1 (.language {
          cause := .matchesEmpty, language := "x", rule := some 1,
          pattern := some "b*".toList }))
      ∧ ∃ l : Layout,
        l.Suits { starred with rules := starred.rules.take 1 } := by
  have hcompiled : ∀ r ∈ starred.rules, r.opening.IsCompiled := by
    refine List.forall_mem_cons.2 ⟨?_, List.forall_mem_singleton.2 ?_⟩
    · exact Pattern.isCompiled_of_compile (eq_ok_get _)
    · exact Pattern.isCompiled_of_compile (eq_ok_get _)
  constructor
  · have herror : starred.compile "x" = .error (.language {
        cause := .matchesEmpty, language := "x", rule := some 1,
        pattern := some "b*".toList }) := by
      decide +kernel
    obtain ⟨i, r, hfirst, hblamed⟩ :=
      (compile_or_blame hcompiled).2.2 _ herror
    cases hblamed.rule_eq
    exact ⟨r, hfirst, hblamed⟩
  · have hletter : (({ starred with rules := starred.rules.take 1 }
        : Spec).compile "x").toOption.isSome := by
      decide +kernel
    obtain ⟨⟨l, -, hl⟩, -⟩ := (compile_or_blame fun r hr =>
      hcompiled r (List.mem_of_mem_take hr)).2.1 _ (eq_ok_get hletter)
    exact ⟨l, hl⟩

/-- The language of a table that lists one pattern. -/
theorem ofTable_pattern {t : Text} {p : Pattern} (name : String)
    (ht : t ≠ []) (h : Pattern.compile t .none = .ok p) :
    ofTable name [("rules", .list [.table
        [("pattern", .string (String.ofList t))]])]
      = .ok { rules := [.simple p none] } := by
  have hne : String.ofList t ≠ "" := fun he =>
    ht (by rw [← String.toList_ofList (l := t), he]; rfl)
  have hword : word? (.string (String.ofList t)) = some t := by
    show (if String.ofList t = "" then none
      else some (String.ofList t).toList) = _
    rw [if_neg hne, String.toList_ofList]
  have hpattern : pattern? name 0 .none (.string (String.ofList t))
      = .ok p := by
    unfold pattern?
    rw [hword]
    dsimp only
    rw [h]
  generalize Config.Value.string (String.ofList t) = v at hpattern ⊢
  have hrule : ruleOf name 0 (.table [("pattern", v)])
      = .ok (.simple p none) := by
    unfold ruleOf ruleOfTable
    dsimp only
    rw [unknownKey?_eq_none_iff.2 (isSoundRule_of_pattern v).known]
    show (pattern? name 0 .none v >>= fun p => .ok (Rule.simple p none)) = _
    rw [hpattern]
    rfl
  generalize Config.Value.table [("pattern", v)] = w at hrule ⊢
  unfold ofTable
  rw [unknownKey?_eq_none_iff.2 isSound_of_rules.known]
  show (rulesOf name 0 [w] >>= fun rules => .ok ({ rules } : Spec)) = _
  unfold rulesOf
  rw [hrule]
  rfl

/-- The compiler of patterns can run out of room for the anchor of a
pattern that it has compiled. No language is blamed for that. -/
theorem compile_unblamed_nested :
    ∃ spec e, ofTable "x" [("rules", .list [.table
        [("pattern", .string (String.ofList (Regex.nestedText 490)))]])]
          = .ok spec
      ∧ spec.compile "x" = .error e ∧ ∀ f, e ≠ .language f := by
  have hcompile : Pattern.compile (Regex.nestedText 490) .none
      = .ok (.nested 490) := Pattern.compile_nested (Nat.le_refl 490)
  have hanchor : (Pattern.nested 490).anchor = .error .tooDeep :=
    Pattern.anchor_nested
  have htable := ofTable_pattern "x" (Regex.nestedText_ne_nil 490) hcompile
  generalize Pattern.nested 490 = p at hcompile hanchor htable
  let spec : Spec := { rules := [.simple p none] }
  have hspec : ∀ r ∈ spec.rules, r.opening.IsCompiled :=
    List.forall_mem_singleton.2 (Pattern.isCompiled_of_compile hcompile)
  have hfirst : FirstFault Rule.Offends spec.rules 0 (.simple p none) := by
    refine .zero ?_
    rintro ⟨_, _, hok, -⟩
    cases hok.symm.trans hanchor
  obtain ⟨e, he, hblamed⟩ := compile_of_firstFault "x" hspec hfirst
  refine ⟨_, e, htable, he, ?_⟩
  cases hblamed with
  | unanchored h => cases h.symm.trans hanchor
  | matchesEmpty h => cases h.symm.trans hanchor
  | tooDeep => exact nofun

-- ========================================================= hindrances

/-- A pattern that a table gives has compiled. -/
theorem isCompiled_of_pattern? {name : String} {fs : Regex.Flags}
    {v : Config.Value} {p : Pattern} (h : pattern? name i fs v = .ok p) :
    p.IsCompiled := by
  unfold pattern? at h
  split at h
  · cases h
  · split at h
    · next hp =>
      cases h
      exact Pattern.isCompiled_of_compile hp
    · cases h
    · cases h

/-- So have the patterns of a rule. -/
theorem isCompiled_of_ruleOf {name : String} {v : Config.Value}
    (h : ruleOf name i v = .ok r) : r.opening.IsCompiled := by
  unfold ruleOf at h
  split at h
  · next t =>
    unfold ruleOfTable at h
    dsimp only at h
    split at h
    · cases h
    · obtain ⟨label, -, h⟩ := exists_of_bind h
      obtain ⟨ignoreCase, -, h⟩ := exists_of_bind h
      split at h
      · obtain ⟨p, hp, h⟩ := exists_of_bind h
        cases h
        exact isCompiled_of_pattern? hp
      · cases h
      · obtain ⟨s, hs, h⟩ := exists_of_bind h
        obtain ⟨e, -, h⟩ := exists_of_bind h
        cases h
        exact isCompiled_of_pattern? hs
      · cases h
  · cases h

/-- The rules that a table lists have compiled patterns. -/
theorem isCompiled_of_ofTable {name : String} {t : Config.Table}
    (h : ofTable name t = .ok spec) :
    ∀ r ∈ spec.rules, r.opening.IsCompiled := by
  obtain ⟨-, -, -, vs, -, hrules⟩ := exists_of_ofTable h
  rw [rulesOf_eq_mapM] at hrules
  intro r hr
  obtain ⟨⟨v, i⟩, -, hv⟩ := exists_of_mem_right (forall₂_of_mapM hrules) hr
  exact isCompiled_of_ruleOf hv

/-- A pattern can be anchored unless something hinders it. So a language
that a table describes is told of an invalid pattern only where a rule of
its own has such a pattern, though every pattern of it has compiled. -/
theorem anchors_unless_hindered (text : Text) (fs : Regex.Flags)
    (language name : String) (table : Config.Table) :
    (∀ p, Pattern.compile text fs = .ok p →
      ((∃ q, p.anchor = .ok q) ↔ ∀ e, ¬ Hindrance text fs e)
        ∧ ∀ e, p.anchor = .error e → Hindrance text fs e)
      ∧ ∀ spec f c, ofTable language table = .ok spec →
        spec.compile name = .error (.language f) → f.cause = .badPattern c →
          ∃ i r fs place, f.rule = some i ∧ spec.rules[i]? = some r
            ∧ Pattern.compile r.opening.text fs = .ok r.opening
            ∧ Hindrance r.opening.text fs (.fault c place) := by
  constructor
  · intro p h
    rcases Pattern.anchor_cases h with
      ⟨ns, -, hanchor, hfree⟩ | ⟨e, herror, he⟩
    · refine ⟨iff_of_true ⟨_, hanchor⟩ (Pattern.not_hindrance_of_free hfree),
        fun e he => ?_⟩
      cases hanchor.symm.trans he
    · refine ⟨iff_of_false ?_ fun hnone => hnone e he, fun e' he' => ?_⟩
      · rintro ⟨q, hq⟩
        cases hq.symm.trans herror
      · cases herror.symm.trans he'
        exact he
  · intro spec f c ht h hc
    have hspec := isCompiled_of_ofTable ht
    obtain ⟨i, r, hfirst, hblamed⟩ := exists_blamed hspec h
    obtain ⟨fs, hfs⟩ := hspec r (List.mem_of_getElem? hfirst.member)
    cases hblamed with
    | @unanchored f place hanchor =>
        cases hc
        rcases Pattern.anchor_cases hfs with ⟨ns, -, hok, -⟩ | ⟨e, herror, he⟩
        · cases hok.symm.trans hanchor
        · cases herror.symm.trans hanchor
          exact ⟨i, r, fs, place, rfl, hfirst.member, hfs, he⟩
    | matchesEmpty => cases hc

/-- A comment that ends with its line is no hindrance, one that runs up to
the end of the pattern is. -/
theorem anchors_unless_hindered_comment :
    (∃ p q, Pattern.compile "(?x)a # b\n".toList .none = .ok p
        ∧ p.anchor = .ok q
        ∧ ∀ e, ¬ Hindrance "(?x)a # b\n".toList .none e)
      ∧ ∃ spec f r fs place,
        ofTable "x" [("rules", .list [.table
            [("pattern", .string "(?x)a # b")]])] = .ok spec
          ∧ spec.compile "x" = .error (.language f) ∧ f.rule = some 0
          ∧ spec.rules[0]? = some r
          ∧ Hindrance r.opening.text fs (.fault .openSubpattern place) := by
  constructor
  · obtain ⟨q, hq⟩ := Option.isSome_iff_exists.1
      (show (((Pattern.compile "(?x)a # b\n".toList .none).bind
        Pattern.anchor).toOption).isSome by decide +kernel)
    obtain ⟨p, hp, hanchor⟩ := exists_of_bind (eq_ok_of_toOption hq)
    exact ⟨p, q, hp, hanchor,
      ((anchors_unless_hindered _ _ "x" "x" []).1 p hp).1.1 ⟨q, hanchor⟩⟩
  · have hrun : (ofTable "x" [("rules", .list [.table
          [("pattern", .string "(?x)a # b")]])]).toOption.map
            (·.compile "x")
        = some (.error (.language {
          cause := .badPattern .openSubpattern, language := "x",
          rule := some 0, pattern := some "(?x)a # b".toList })) := by
      decide +kernel
    obtain ⟨spec, hspec, hcompile⟩ := Option.map_eq_some_iff.1 hrun
    have ht := eq_ok_of_toOption hspec
    obtain ⟨i, r, fs, place, hi, hr, -, hhindered⟩ :=
      (anchors_unless_hindered [] .none _ _ _).2 spec _ _ ht hcompile rfl
    cases hi
    exact ⟨spec, _, r, fs, place, ht, hcompile, rfl, hr, hhindered⟩

/-- A pattern that compiles and cannot be anchored. -/
theorem not_anchors_comment :
    ∃ p, Pattern.compile "(?x)a #b".toList .none = .ok p
      ∧ ∀ q, p.anchor ≠ .ok q := by
  have hanchor : (Pattern.compile "(?x)a #b".toList .none).toOption.map
      Pattern.anchor
        = some (.error (.fault .openSubpattern (some 5))) := by
    decide +kernel
  obtain ⟨p, hp, herror⟩ := Option.map_eq_some_iff.1 hanchor
  refine ⟨p, eq_ok_of_toOption hp, fun q hq => ?_⟩
  cases herror.symm.trans hq

end Spec

end Highlight
