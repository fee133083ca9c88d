/-
What the rules for the words of a language take.

A language lists its words in the order in which they are tried. Of every
text the rule for a list takes the first word that stands in front of it
and ends at the edge of a word (`Spec.words_taken_in_order`). So a word is
passed over where it would end in the middle of a longer one, and a longer
one may follow that it begins. A word that ends with punctuation has its
edge where a word character comes next, and only there.

None of this depends on what characters the words have, nor on the other
rules of the language.
-/
import Highlight.Proofs.Language.Blame

namespace Highlight

-- ========================================================== vocabulary

/-- Of every text the rule takes the first of the words that leads it, up
to the edge of a word, and nothing if there is none. -/
def Rule.TakesFirst (label : String) (ws : List Text) (r : Rule) : Prop :=
  ∃ p, r = .simple p (some label)
    ∧ ∀ t, p.matchLength? t = .ok ((ws.find? t.isLedBy).map List.length)

namespace Spec

variable {label : String} {ws : List Text} {r : Rule}

theorem takesFirst_of_standard (hne : ws ≠ [])
    (h : Standard (wordsPattern ws, some label) r) :
    r.TakesFirst label ws := by
  obtain ⟨q, hq, q', hq', -, rfl⟩ := h
  exact ⟨q', rfl,
    Pattern.matchLength?_listed hne (Pattern.node_of_words hne hq hq')⟩

/-- A list of words has its rule unless it is empty. -/
theorem rel_takesFirst {words : Option (List Text)} {rule : Option Rule}
    (h : Option.Rel (fun ws => Standard (wordsPattern ws, some label))
      (words.filter (· ≠ [])) rule) :
    Option.Rel (Rule.TakesFirst label) (words.filter (· ≠ [])) rule := by
  have hne : ∀ ws ∈ words.filter (· ≠ []), ws ≠ [] := by
    intro ws hws
    simpa using (Option.filter_eq_some_iff.1 hws).2
  generalize words.filter (· ≠ []) = words at h hne
  cases h with
  | none => exact .none
  | some h => exact .some (takesFirst_of_standard (hne _ rfl) h)

/-- In every compiled language the rules for its words take the first word
that leads a text. A language whose own rules do not offend compiles. -/
theorem words_taken_in_order (spec : Spec) (language : String) :
    ((∀ r ∈ spec.rules, ¬ r.Offends) →
        ∃ rules, spec.compile language = .ok rules)
      ∧ ∀ rules, spec.compile language = .ok rules →
        ∃ l : Layout, rules = l.rules ∧ l.Suits spec
          ∧ Option.Rel (Rule.TakesFirst "keyword")
            (spec.keywords.filter (· ≠ [])) l.keywords
          ∧ Option.Rel (Rule.TakesFirst "value")
            (spec.constants.filter (· ≠ [])) l.constants
          ∧ Option.Rel (Rule.TakesFirst "builtin")
            (spec.builtins.filter (· ≠ [])) l.builtins := by
  refine ⟨exists_compile language, fun rules h => ?_⟩
  obtain ⟨l, hl, hsuits⟩ := exists_layout h
  exact ⟨l, hl, hsuits, rel_takesFirst hsuits.keywords,
    rel_takesFirst hsuits.constants, rel_takesFirst hsuits.builtins⟩

/-- Words that begin others, and one that ends with punctuation. -/
def nested : Spec where
  keywords := some ["in".toList, "int".toList, "c++".toList, "c".toList]

theorem words_taken_in_order_nested :
    ∃ rules r, nested.compile "x" = .ok rules ∧ r ∈ rules
      ∧ r.opening.matchLength? "int x".toList = .ok (some 3)
      ∧ r.opening.matchLength? "into".toList = .ok none
      ∧ r.opening.matchLength? "c++x".toList = .ok (some 3)
      ∧ r.opening.matchLength? "c++ ".toList = .ok (some 1) := by
  obtain ⟨hexists, hwords⟩ := words_taken_in_order nested "x"
  obtain ⟨rules, h⟩ := hexists fun _ hr => absurd hr List.not_mem_nil
  obtain ⟨l, rfl, -, hkeywords, -⟩ := hwords rules h
  obtain ⟨r, hr, p, rfl, hp⟩ := exists_of_rel_left hkeywords
  refine ⟨_, .simple p (some "keyword"), h, ?_, ?_, ?_, ?_, ?_⟩
  · simp [Layout.rules, hr]
  all_goals
    rw [show (Rule.simple p (some "keyword")).opening = p from rfl, hp]
    decide +kernel

end Spec

end Highlight
