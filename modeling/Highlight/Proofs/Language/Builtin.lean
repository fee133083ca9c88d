/-
The known languages finish every scan: no rule of them matches the empty
text, neither where a line ends nor before any other text
(`tokenize_builtin`).

Compiling looks at the empty text only. That nothing is matched elsewhere
either is read off the trees of the patterns: of the standard ones for any
language, and of the languages' own ones by a look at each.
-/
import Highlight.Proofs.Language.Filled
import Highlight.Registry

namespace Highlight

open List (Forall₂)

-- ========================================================== registries

namespace Registry

variable {specs : Entries String Spec} {entries : Entries String (List Rule)}
  {log : List String} {name : String} {spec : Spec}

/-- Every language of a registry was compiled under its name. -/
theorem forall₂_of_compileAll (h : compileAll specs = (log, .ok entries)) :
    Forall₂ (fun e e' => e'.1 = e.1 ∧ e.2.compile e.1 = .ok e'.2)
      specs entries := by
  induction specs generalizing log entries with
  | nil =>
      cases h
      exact .nil
  | cons e specs ih =>
      obtain ⟨name, spec⟩ := e
      unfold compileAll at h
      split at h
      · cases h
      · next rules hrules =>
        rcases hrest : compileAll specs with ⟨log', e | entries'⟩
        · rw [hrest] at h
          cases h
        · rw [hrest] at h
          cases h
          exact .cons ⟨rfl, hrules⟩ (ih hrest)

theorem exists_of_lookup
    (h : Forall₂ (fun e e' => e'.1 = e.1 ∧ e.2.compile e.1 = .ok e'.2)
      specs entries)
    (hspec : specs.lookup name = some spec) :
    ∃ rules, entries.lookup name = some rules
      ∧ spec.compile name = .ok rules := by
  induction h with
  | nil => cases hspec
  | @cons e e' specs entries he hrest ih =>
      obtain ⟨key, spec'⟩ := e
      obtain ⟨key', rules⟩ := e'
      obtain ⟨hkey, hcompile⟩ := he
      change key' = key at hkey
      subst hkey
      rw [List.lookup_cons] at hspec ⊢
      cases hname : name == key' with
      | true =>
          rw [hname] at hspec
          cases hspec
          rw [beq_iff_eq.1 hname]
          exact ⟨rules, rfl, hcompile⟩
      | false =>
          rw [hname] at hspec
          exact ih hspec

/-- What a registry was built from is found compiled in it. -/
theorem exists_of_build {aliases : Entries String String} {r : Registry}
    (h : (build specs aliases).2 = .ok r)
    (hspec : specs.lookup name = some spec) :
    ∃ rules, r.get? name = some rules ∧ spec.compile name = .ok rules := by
  unfold build at h
  split at h
  · cases h
  · next log rules hall =>
    cases h
    exact exists_of_lookup (forall₂_of_compileAll hall) hspec

theorem build_default :
    (build Language.builtins Language.aliases).2 = .ok default :=
  eq_ok_get build_builtins

end Registry

-- =========================================================== the result

namespace Language

/-- The known languages have no empty word. -/
theorem hasWords_builtins : ∀ e ∈ builtins, e.2.HasWords := by
  decide

/-- Once anchored, the own rules of the known languages take some text
wherever they match. -/
theorem isFilled_own_builtins : ∀ e ∈ builtins, ∀ r ∈ e.2.rules,
    r.opening.anchor.toOption.all (fun p => (r.withOpening p).isFilled)
      = true := by
  decide +kernel

theorem isFilled_of_anchors {e : String × Spec} (he : e ∈ builtins)
    {r r' : Rule} (hr : r ∈ e.2.rules) (h : r.Anchors r') : r'.isFilled := by
  obtain ⟨p, hp, -, rfl⟩ := h
  have hall := isFilled_own_builtins e he r hr
  rw [hp] at hall
  exact hall

end Language

/-- The rules of a known language match the empty text nowhere, so every
scan with them comes to its end. -/
theorem tokenize_builtin (name : String)
    (hname : name ∈ Entries.keys Language.builtins) :
    ∃ rules, Registry.default.get? name = some rules
      ∧ (∀ r ∈ rules, ∀ line, r.opening.matchLength? line ≠ .ok (some 0))
      ∧ ∀ source, ∃ ts, tokenize rules source = .ok ts := by
  obtain ⟨spec, hspec, hmem⟩ := Entries.exists_lookup_of_mem_keys hname
  obtain ⟨rules, hrules, hcompile⟩ :=
    Registry.exists_of_build Registry.build_default hspec
  have hfilled := Spec.isFilled_of_compile
    (Language.hasWords_builtins _ hmem)
    (fun r hr r' h => Language.isFilled_of_anchors hmem hr h) hcompile
  refine ⟨rules, hrules, fun r hr line => ?_, fun source => ?_⟩
  · exact Pattern.matchLength?_ne_zero (Rule.isFilled_opening (hfilled r hr))
      line
  · exact Scan.exists_tokenize_of_filled hfilled source

example : Entries.keys Language.builtins
    = ["javascript", "python", "lua", "css", "html"] := rfl

/-- Markup among them, whose rules know comments and entities. -/
theorem tokenize_builtin_html :
    ∃ rules, Registry.default.get? "html" = some rules
      ∧ (∀ r ∈ rules, ∀ line, r.opening.matchLength? line ≠ .ok (some 0))
      ∧ ∀ source, ∃ ts, tokenize rules source = .ok ts :=
  tokenize_builtin "html" (by decide)

end Highlight
