/-
Highlighted text as a fragment of a page: a flat row of spans, in which
every '<' and every '>' belongs to a mark and every class ends at its
double quote (`Fragment`).

Text is escaped on its way into the fragment, classes are not. So the
fragment is as it should be as long as the labels of the language's own
rules are fit for an attribute (`highlight_fragment`); a label that is not
breaks it (`not_fragment_of_label`), and no check of the configuration
stops such a label.
-/
import Highlight.Proofs.Html.Page
import Highlight.Proofs.Language.Configured

namespace Highlight

namespace Html

-- ========================================================== vocabulary

/-- Text without the characters that marks are made of. -/
def IsText (t : Text) : Prop := '<' ∉ t ∧ '>' ∉ t

/-- A label that may stand in an attribute as it is. -/
def IsValue (l : String) : Prop := '"' ∉ l.toList ∧ IsText l.toList

instance (t : Text) : Decidable (IsText t) :=
  inferInstanceAs (Decidable (_ ∧ _))

instance (l : String) : Decidable (IsValue l) :=
  inferInstanceAs (Decidable (_ ∧ _))

/-- A flat row of spans with text in them and between them. -/
inductive Fragment : Text → Prop
  | nil : Fragment []
  | text {s t : Text} (hs : IsText s) (ht : Fragment t) : Fragment (s ++ t)
  | span {l : String} {s t : Text} (hl : IsValue l) (hs : IsText s)
    (ht : Fragment t) :
    Fragment (spanOpening ++ (l.toList ++ (spanOpeningEnd
      ++ (s ++ (spanClosing ++ t)))))

variable {t : Text}

/-- Nothing that could be a mark is left of a fragment whose marks are
taken off. -/
theorem Fragment.isText_strip (h : Fragment t) : IsText (strip t) := by
  have happend {s r : Text} (hs : IsText s) (hr : IsText r) :
      IsText (s ++ r) := by
    simpa [IsText, hs.1, hs.2] using hr
  induction h with
  | nil => simp [strip_nil, IsText]
  | text hs _ ih =>
      rw [strip_append hs.1]
      exact happend hs ih
  | span hl hs _ ih =>
      rw [strip_of_afterMark? (afterMark?_opening hl.1 _), strip_append hs.1,
        strip_of_afterMark? (afterMark?_closing _)]
      exact happend hs ih

-- ============================================================== tokens

/-- Tokens of clean text with clean labels are written as a fragment. -/
theorem fragment_ofTokens {ts : List Token}
    (hts : ∀ t ∈ ts, IsText t.text ∧ ∀ l ∈ t.label, IsValue l) :
    Fragment (ofTokens ts) := by
  induction ts with
  | nil => exact .nil
  | cons t ts ih =>
      rw [List.forall_mem_cons] at hts
      obtain ⟨⟨htext, hlabel⟩, hts⟩ := hts
      have hcons : ofTokens (t :: ts) = ofToken t ++ ofTokens ts := rfl
      rcases h : t.shown? with _ | l
      · rw [hcons, ofToken_of_not_shown h]
        exact .text htext (ih hts)
      · have hl := hlabel l (Option.mem_filter_iff.1 h).1
        rw [hcons, ofToken_of_shown h]
        simp only [List.append_assoc]
        exact .span hl htext (ih hts)

/-- Escaped text has no angle bracket and no lone ampersand. -/
theorem isText_escape (t : Text) : IsText (escape t) :=
  ⟨not_mem_escape (Or.inl rfl) t, not_mem_escape (Or.inr rfl) t⟩

end Html

-- ======================================================= labels of rules

/-- Anchoring does not touch the label. -/
theorem Rule.Anchors.label_eq {r r' : Rule} (h : r.Anchors r') :
    r'.label = r.label := by
  obtain ⟨p, -, -, rfl⟩ := h
  cases r <;> rfl

namespace Spec

variable {spec : Spec} {language : String} {rules : List Rule}

/-- Every label of an own rule may stand in an attribute as it is. -/
def HasValues (s : Spec) : Prop :=
  ∀ r ∈ s.rules, ∀ l ∈ r.label, Html.IsValue l

instance (s : Spec) : Decidable s.HasValues :=
  inferInstanceAs (Decidable (∀ r ∈ s.rules, ∀ l ∈ r.label, Html.IsValue l))

/-- The labels of standard rules may stand in an attribute as they are. -/
theorem IsStandard.isValue {p : Text × Option String}
    (h : spec.IsStandard p) : ∀ l ∈ p.2, Html.IsValue l := by
  have hwords : ∀ l ∈ wordLabels, Html.IsValue l := by decide +kernel
  cases h with
  | words _ _ hlabel => simpa using hwords _ hlabel
  | number => decide +kernel
  | strings => simpa using (by decide +kernel : Html.IsValue "string")
  | comment => simpa using (by decide +kernel : Html.IsValue "comment")
  | wordRun => simp

/-- Only an own rule can have a label that may not stand in an
attribute. -/
theorem isValue_of_compile (hspec : spec.HasValues)
    (h : spec.compile language = .ok rules) :
    ∀ r ∈ rules, ∀ l ∈ r.label, Html.IsValue l := by
  have hstandard {p : Text × Option String} {r : Rule}
      (hp : ∀ l ∈ p.2, Html.IsValue l) (h : Standard p r) :
      ∀ l ∈ r.label, Html.IsValue l := by
    obtain ⟨q, -, h⟩ := h
    rw [h.label_eq]
    exact hp
  obtain ⟨blank, own, standard, rfl, hblank, hown, hrest⟩ :=
    exists_of_compile h
  intro r hr
  rcases List.mem_append.1 hr with hr | hr
  · rcases List.mem_cons.1 hr with rfl | hr
    · exact hstandard (by simp) hblank
    · obtain ⟨r₀, hr₀, hanchors⟩ := exists_of_mem_right hown hr
      rw [hanchors.label_eq]
      exact hspec r₀ hr₀
  · obtain ⟨p, hp, hr⟩ := exists_of_mem_right hrest hr
    exact hstandard (isStandard_of_mem hp).isValue hr

end Spec

-- ======================================================== the fragment

namespace Settings

variable {s : Settings}

/-- What is highlighted in a language is a fragment if its labels are. -/
theorem fragment_of_highlightIn {language notes : String}
    {source html : Text} (hr : s.registry.IsBuilt) (hescape : s.escape)
    (hbare : s.lineNumbers = false ∧ s.standalone = false)
    (hvalues : ∀ name, s.registry.canonicalName? language = some name →
      ∀ spec, s.registry.specs.lookup name = some spec → spec.HasValues)
    (h : s.highlightIn language source = .ok (notes, html)) :
    Html.Fragment html := by
  have hprepared : s.prepared source = Html.escape source := if_pos hescape
  have hwrapped (l : Option String) (t : Text) :
      s.wrapped l source t = t := by
    simp [wrapped, hbare.1, hbare.2]
  have htext := Html.isText_escape source
  unfold highlightIn at h
  rw [hprepared] at h
  split at h
  · cases h
    rw [hwrapped, ← List.append_nil (Html.escape source)]
    exact .text htext .nil
  · next name rules hrules =>
    obtain ⟨ts, hts, h⟩ := exists_of_bind h
    cases h
    rw [hwrapped]
    obtain ⟨hname, hget⟩ := of_rules?_eq_some hrules
    obtain ⟨spec, hspec, hcompile⟩ := Registry.exists_of_get? hr hget
    have hlabels :=
      Spec.isValue_of_compile (hvalues name hname spec hspec) hcompile
    refine Html.fragment_ofTokens fun t ht => ?_
    have hlexed := (Scan.tokenize_ok_iff.1 hts).exists_lexed ht
    refine ⟨⟨fun h => htext.1 (hlexed.text_subset h),
      fun h => htext.2 (hlexed.text_subset h)⟩, fun l hl => ?_⟩
    obtain ⟨r, hr, hl⟩ := hlexed.exists_rule hl
    exact hlabels r hr l hl

/-- Bare output for a text that is escaped and not traced. -/
def bare (language : String) (registry : Registry) : Settings where
  input := none
  output := none
  language := .word language
  registry := registry
  lineNumbers := false
  standalone := false
  escape := true
  listLanguages := false
  watch := false
  debug := false

/-- A language that the registry has is found. -/
theorem rules?_bare {language : String} {registry : Registry}
    {rules : List Rule} (hget : registry.get? language = some rules) :
    (bare language registry).rules? language = some (language, rules) := by
  unfold rules?
  show (do
    let name ← registry.canonicalName? language
    let rules ← registry.get? name
    some (name, rules)) = some (language, rules)
  rw [Registry.canonicalName?_of_get? hget]
  exact congrArg (Option.bind · _) hget

/-- Without gutter and page the output is the markup of the tokens. -/
theorem highlight_bare {language : String} {registry : Registry}
    {rules : List Rule} {source : Text} {ts : List Token}
    (hget : registry.get? language = some rules)
    (hts : tokenize rules (Html.escape source) = .ok ts) :
    (bare language registry).highlight source
      = .ok ("", Html.ofTokens ts) := by
  unfold highlight
  show ((bare language registry).highlightIn language source).mapError
    Obstacle.halt = _
  unfold highlightIn
  rw [rules?_bare hget]
  show (Except.mapError _ (tokenize rules (Html.escape source) >>= _)) = _
  rw [hts]
  rfl

end Settings

-- ========================================================= the result

/-- With a registry that a configuration made, escaped output without a
block is a flat row of spans, if the labels of the language's own rules may
stand in attributes as they are. -/
theorem highlight_fragment (t : Config.Table) (log : List String)
    (made : Option Registry) (s : Settings) (language notes : String)
    (source html : Text)
    (ht : Config.registry? t = (log, .ok made))
    (hr : s.registry = made.getD .default)
    (hlanguage : s.language = .word language) (hescape : s.escape)
    (hbare : s.lineNumbers = false ∧ s.standalone = false)
    (hvalues : ∀ name, s.registry.canonicalName? language = some name →
      ∀ spec, s.registry.specs.lookup name = some spec → spec.HasValues)
    (h : s.highlight source = .ok (notes, html)) :
    Html.Fragment html := by
  have hbuilt : s.registry.IsBuilt := by
    rw [hr]
    exact Registry.isBuilt_of_registry? (congrArg Prod.snd ht)
  obtain ⟨language', hlanguage', hin⟩ := Settings.exists_of_highlight h
  obtain rfl : language = language' :=
    Arguments.Given.word.inj (hlanguage.symm.trans hlanguage')
  exact Settings.fragment_of_highlightIn hbuilt hescape hbare hvalues hin

/-- The table of a language with one rule for the letter a. -/
def Spec.letterTable (label : String) : Config.Table :=
  [("rules", .list [.table [("pattern", .string "a"),
    ("class", .string label)]])]

/-- A label with a single quote does no harm. -/
theorem highlight_fragment_letter :
    ∃ log r html, Config.registry? [("languages", .table
          [("x", .table (Spec.letterTable "it's"))])] = (log, .ok (some r))
      ∧ (Settings.bare "x" r).highlight "<a>".toList = .ok ("", html)
      ∧ Html.Fragment html := by
  have hrun : ((Spec.ofTable "x" (Spec.letterTable "it's")).toOption.bind
      fun spec => (spec.compile "x").toOption.bind fun rules =>
        (tokenize rules (Html.escape "<a>".toList)).toOption.map fun _ =>
          decide spec.HasValues) = some true := by
    decide +kernel
  obtain ⟨log, r, spec, rules, ts, hr, hlookup, hget, hts, hvalues⟩ :=
    Registry.exists_scan hrun
  have hmade := Settings.highlight_bare hget hts
  refine ⟨log, r, _, hr, hmade, highlight_fragment _ log (some r) _ "x" _ _ _
    hr rfl rfl rfl ⟨rfl, rfl⟩ ?_ hmade⟩
  intro name hname spec' hspec'
  change r.canonicalName? "x" = some name at hname
  change r.specs.lookup name = some spec' at hspec'
  rw [Registry.canonicalName?_of_get? hget] at hname
  cases hname
  rw [hlookup] at hspec'
  cases hspec'
  exact of_decide_eq_true hvalues

/-- A label that ends its attribute is accepted, and written as it is. -/
theorem not_fragment_of_label :
    ∃ log r html, Config.registry? [("languages", .table
          [("x", .table (Spec.letterTable "\"><b>"))])] = (log, .ok (some r))
      ∧ (Settings.bare "x" r).highlight "a".toList = .ok ("", html)
      ∧ html = "<span class=\"\"><b>\">a</span>".toList
      ∧ ¬ Html.Fragment html := by
  have hrun : ((Spec.ofTable "x" (Spec.letterTable "\"><b>")).toOption.bind
      fun spec => (spec.compile "x").toOption.bind fun rules =>
        (tokenize rules (Html.escape "a".toList)).toOption.map fun ts => ts)
      = some [⟨some "\"><b>", "a".toList, ⟨0, 0, 0⟩, ⟨0, 1, 1⟩⟩] := by
    decide +kernel
  obtain ⟨log, r, spec, rules, ts, hr, -, hget, hts, rfl⟩ :=
    Registry.exists_scan hrun
  refine ⟨log, r, _, hr, Settings.highlight_bare hget hts, by decide, ?_⟩
  -- the mark ends with the label's own double quote, and text is left
  have hmark : Html.afterMark? "<span class=\"\"><b>\">a</span>".toList
      = some "<b>\">a</span>".toList :=
    Html.afterMark?_opening List.not_mem_nil "<b>\">a</span>".toList
  have hrest : Html.strip "<b>\">a</span>".toList
      = '<' :: Html.strip "b>\">a</span>".toList :=
    Html.strip_of_eq_none rfl
  intro h
  have htext := h.isText_strip.1
  rw [show Html.ofTokens _ = "<span class=\"\"><b>\">a</span>".toList
    from by decide, Html.strip_of_afterMark? hmark, hrest] at htext
  exact htext List.mem_cons_self

end Highlight
