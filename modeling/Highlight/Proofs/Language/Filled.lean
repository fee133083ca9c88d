/-
Rules that take some text wherever they match, and the standard rules of
a language as such rules.

A language has blanks, words, numbers, strings, comments and runs of word
characters by patterns of its own making. Fixed patterns are looked at one
by one; those made from words and delimiters are filled because no word
and no delimiter is empty, whatever characters they have
(`isFilled_of_standard`). Scans with such rules alone always come to
their end (`exists_tokenize_of_filled`).
-/
import Highlight.Proofs.Language.Compile
import Highlight.Proofs.Regex.Filled
import Highlight.Proofs.Scan.Tiling
import Mathlib.Data.List.ReduceOption

namespace Highlight

open Regex (Crossing)

-- =============================================================== rules

namespace Rule

/-- The opening has an answer on every text and takes a character at least,
and the closing has an answer too. -/
def isFilled : Rule → Bool
  | .simple p _ => p.isFilled
  | .delimited p closing _ => p.isFilled && closing.isOrderly

variable {r : Rule}

theorem isFilled_opening (h : r.isFilled) : r.opening.isFilled := by
  cases r with
  | simple p label => exact h
  | delimited p closing label => exact (Bool.and_eq_true _ _ ▸ h).1

/-- No pattern of the rule fails to answer. -/
theorem not_raises (h : r.isFilled) (x : Crossing) : ¬ r.Raises x := by
  have horderly := (Bool.and_eq_true _ _ ▸ isFilled_opening h).1
  rintro ⟨line, -, hx | ⟨p, closing, label, rfl, hx⟩⟩
  · exact Pattern.matchLength?_ne_error horderly line x hx
  · exact Pattern.searchEnd?_ne_error (Bool.and_eq_true _ _ ▸ h).2 line x hx

end Rule

/-- A scan with filled rules comes to its end. -/
theorem Scan.exists_tokenize_of_filled {rules : List Rule}
    (h : ∀ r ∈ rules, r.isFilled) (source : Text) :
    ∃ ts, tokenize rules source = .ok ts :=
  exists_tokenize
    (fun r hr line _ =>
      Pattern.matchLength?_ne_zero (Rule.isFilled_opening (h r hr)) line)
    (fun r hr => Rule.not_raises (h r hr)) source

-- ====================================================== standard rules

namespace Spec

/-- The lists of words that a language has. -/
def wordLists (s : Spec) : List (List Text) :=
  [s.keywords, s.constants, s.builtins].reduceOption

/-- No word of the language is empty. -/
def HasWords (s : Spec) : Prop := ∀ ws ∈ s.wordLists, ∀ w ∈ ws, w ≠ []

instance (s : Spec) : Decidable s.HasWords :=
  inferInstanceAs (Decidable (∀ ws ∈ s.wordLists, ∀ w ∈ ws, w ≠ []))

/-- The labels of listed words. -/
def wordLabels : List String := ["keyword", "value", "builtin"]

/-- A standard pattern of the language, with the label of its rule. -/
inductive IsStandard (s : Spec) : Text × Option String → Prop
  | words {ws : List Text} {label : String} (hws : ws ∈ s.wordLists)
    (hne : ws ≠ []) (hlabel : label ∈ wordLabels) :
    IsStandard s (wordsPattern ws, some label)
  | number : IsStandard s (numberPattern, some "value")
  | strings (hne : s.stringPatterns ≠ []) :
    IsStandard s (Text.join ['|'] s.stringPatterns, some "string")
  | comment {d : Text} (hd : s.commentDelimiter = some d) (hne : d ≠ []) :
    IsStandard s (commentPattern d, some "comment")
  | wordRun : IsStandard s (wordRunPattern, none)

/-- The patterns of blanks, numbers and strings. -/
def fixedPatterns : List Text :=
  [blankPattern, numberPattern, doubleStringPattern, singleStringPattern,
   Text.join ['|'] [doubleStringPattern, singleStringPattern]]

theorem all_isFilled_fixedPatterns : ∀ t ∈ wordRunPattern :: fixedPatterns,
    ((Pattern.compile t .none).bind Pattern.anchor).toOption.all
      (·.isFilled) = true := by
  decide +kernel

/-- What a look at an anchored pattern has told. -/
theorem anchored_all {f : Pattern → Bool} {t : Text} {q q' : Pattern}
    (hall : ((Pattern.compile t .none).bind Pattern.anchor).toOption.all f
      = true)
    (h : Pattern.compile t .none = .ok q) (h' : q.anchor = .ok q') :
    f q' = true := by
  rw [h] at hall
  change q.anchor.toOption.all f = true at hall
  rw [h'] at hall
  exact hall

theorem isFilled_of_fixed {t : Text} {q q' : Pattern}
    (ht : t ∈ wordRunPattern :: fixedPatterns)
    (h : Pattern.compile t .none = .ok q)
    (h' : q.anchor = .ok q') : q'.isFilled :=
  anchored_all (all_isFilled_fixedPatterns t ht) h h'

variable {spec : Spec} {p : Text × Option String} {r : Rule}

theorem exists_of_mem_wordsRule {ws : Option (List Text)} {label : String}
    (h : p ∈ wordsRule ws label) :
    ∃ l, ws = some l ∧ l ≠ [] ∧ p = (wordsPattern l, some label) := by
  unfold wordsRule at h
  split at h
  · cases h
  · cases h
  · next l hne =>
    rw [List.mem_singleton.1 h]
    exact ⟨l, rfl, hne, rfl⟩

theorem mem_wordLists {ws : Option (List Text)} {l : List Text}
    (hws : ws ∈ [spec.keywords, spec.constants, spec.builtins])
    (h : ws = some l) : l ∈ spec.wordLists :=
  List.reduceOption_mem_iff.2 (h ▸ hws)

theorem strings_mem_fixedPatterns (h : spec.stringPatterns ≠ []) :
    Text.join ['|'] spec.stringPatterns ∈ fixedPatterns := by
  revert h
  unfold stringPatterns
  cases spec.doubleString <;> cases spec.singleString
  · exact fun h => absurd rfl h
  all_goals exact fun _ => by decide

/-- Where the standard patterns come from. -/
theorem isStandard_of_mem (h : p ∈ spec.standard) : spec.IsStandard p := by
  have hwords {ws : Option (List Text)} {label : String}
      (hws : ws ∈ [spec.keywords, spec.constants, spec.builtins])
      (hlabel : label ∈ wordLabels) (h : p ∈ wordsRule ws label) :
      spec.IsStandard p := by
    obtain ⟨l, hl, hne, rfl⟩ := exists_of_mem_wordsRule h
    exact .words (mem_wordLists hws hl) hne hlabel
  unfold standard at h
  simp only [List.mem_append] at h
  rcases h with (((((hkey | hconst) | hbuilt) | hnumber) | hstring)
    | hcomment) | hrun
  · exact hwords (by simp) (by decide) hkey
  · exact hwords (by simp) (by decide) hconst
  · exact hwords (by simp) (by decide) hbuilt
  · rw [List.mem_singleton.1 hnumber]
    exact .number
  · split at hstring
    · cases hstring
    · next hne =>
      rw [List.mem_singleton.1 hstring]
      exact .strings hne
  · split at hcomment
    · cases hcomment
    · cases hcomment
    · next d hne hd =>
      rw [List.mem_singleton.1 hcomment]
      exact .comment hd hne
  · rw [List.mem_singleton.1 hrun]
    exact .wordRun

/-- The rule of a standard pattern takes some text wherever it matches. -/
theorem isFilled_of_standard (hspec : spec.HasWords)
    (hp : p ∈ (blankPattern, none) :: spec.standard) (h : Standard p r) :
    r.isFilled := by
  obtain ⟨q, hq, p', hp', -, rfl⟩ := h
  show p'.isFilled = true
  rcases List.mem_cons.1 hp with rfl | hp
  · exact isFilled_of_fixed (by decide) hq hp'
  · cases isStandard_of_mem hp with
    | words hws hne => exact Pattern.isFilled_of_words hne (hspec _ hws) hq hp'
    | number => exact isFilled_of_fixed (by decide) hq hp'
    | strings hne =>
        exact isFilled_of_fixed
          (List.mem_cons_of_mem _ (strings_mem_fixedPatterns hne)) hq hp'
    | comment _ hne => exact Pattern.isFilled_of_comment hne hq hp'
    | wordRun => exact isFilled_of_fixed (by decide) hq hp'

-- ============================================================ languages

variable {language : String} {rules : List Rule}

/-- A rule that takes no text somewhere is one of the language's own. -/
theorem own_of_matches_empty (hspec : spec.HasWords)
    (h : spec.compile language = .ok rules) {k : Nat} {line : Text}
    (hrule : rules[k]? = some r)
    (hm : r.opening.matchLength? line = .ok (some 0)) :
    1 ≤ k ∧ k ≤ spec.rules.length
      ∧ ∃ own, spec.rules[k - 1]? = some own ∧ own.Anchors r := by
  obtain ⟨blank, own, standard, rfl, hblank, hown, hstandard⟩ :=
    exists_of_compile h
  have hempty : ¬ r.isFilled := fun hr =>
    Pattern.matchLength?_ne_zero (Rule.isFilled_opening hr) line hm
  cases k with
  | zero =>
      cases hrule
      exact absurd (isFilled_of_standard hspec List.mem_cons_self hblank)
        hempty
  | succ k =>
      rw [List.cons_append, List.getElem?_cons_succ] at hrule
      by_cases hk : k < own.length
      · rw [List.getElem?_append_left hk] at hrule
        have hlen := hown.length_eq
        obtain ⟨hk', hget⟩ := List.getElem?_eq_some_iff.1 hrule
        refine ⟨Nat.le_add_left 1 k, by omega, spec.rules[k],
          List.getElem?_eq_getElem (by omega), ?_⟩
        rw [← hget]
        exact hown.get (by omega) hk'
      · rw [List.getElem?_append_right (Nat.le_of_not_lt hk)] at hrule
        obtain ⟨p, hp, hr⟩ := exists_of_mem_right hstandard
          (List.mem_of_getElem? hrule)
        exact absurd (isFilled_of_standard hspec
          (List.mem_cons_of_mem _ hp) hr) hempty

/-- A language is filled if its own rules are, once they are anchored. -/
theorem isFilled_of_compile (hspec : spec.HasWords)
    (hown : ∀ r ∈ spec.rules, ∀ r', r.Anchors r' → r'.isFilled)
    (h : spec.compile language = .ok rules) : ∀ r ∈ rules, r.isFilled := by
  obtain ⟨blank, own, standard, rfl, hblank, hanchors, hstandard⟩ :=
    exists_of_compile h
  intro r hr
  rcases List.mem_append.1 hr with hr | hr
  · rcases List.mem_cons.1 hr with rfl | hr
    · exact isFilled_of_standard hspec List.mem_cons_self hblank
    · obtain ⟨r₀, hr₀, hanchor⟩ := exists_of_mem_right hanchors hr
      exact hown r₀ hr₀ r hanchor
  · obtain ⟨p, hp, hr⟩ := exists_of_mem_right hstandard hr
    exact isFilled_of_standard hspec (List.mem_cons_of_mem _ hp) hr

end Spec

end Highlight
