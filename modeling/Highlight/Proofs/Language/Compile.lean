/-
What a compiled language consists of: the rule for blanks, the language's
own rules one by one, and the standard rules, each with its opening
anchored (`exists_of_compile`).

Every rule has passed the check on the empty text, so where a line ends no
rule of the language applies (`unmatched_nil_of_compile`).
-/
import Highlight.Language.Compile
import Highlight.Proofs.Checked
import Highlight.Proofs.Scan.Lexed

namespace Highlight

open List (Forall₂)

-- ========================================================== vocabulary

/-- The second rule is the first one with its opening anchored, and it
does not match the empty text. -/
def Rule.Anchors (r r' : Rule) : Prop :=
  ∃ p, r.opening.anchor = .ok p ∧ p.matchLength? [] = .ok none
    ∧ r' = r.withOpening p

/-- The rule that a standard pattern with its label becomes. -/
def Spec.Standard (p : Text × Option String) (r : Rule) : Prop :=
  ∃ q, Pattern.compile p.1 .none = .ok q ∧ (Rule.simple q p.2).Anchors r

theorem Rule.opening_withOpening (p : Pattern) (r : Rule) :
    (r.withOpening p).opening = p := by
  cases r <;> rfl

theorem Rule.Anchors.match_nil {r r' : Rule} (h : r.Anchors r') :
    r'.opening.matchLength? [] = .ok none := by
  obtain ⟨p, -, hp, rfl⟩ := h
  rw [Rule.opening_withOpening]
  exact hp

theorem Spec.Standard.match_nil {p : Text × Option String} {r : Rule}
    (h : Spec.Standard p r) : r.opening.matchLength? [] = .ok none := by
  obtain ⟨q, -, h⟩ := h
  exact h.match_nil

-- ============================================================= steps

namespace Spec

variable {spec : Spec} {language : String} {rules : List Rule}

theorem anchors_of_anchored {rule : Option Nat} {r r' : Rule}
    (h : anchored language rule r = .ok r') : r.Anchors r' := by
  unfold anchored at h
  dsimp only at h
  split at h
  · cases h
  · cases h
  · next p hp =>
    split at h
    · next hm =>
      cases h
      exact ⟨p, hp, hm, rfl⟩
    · cases h

theorem exists_of_standardRule {p : Text × Option String} {r : Rule}
    (h : standardRule p = .ok r) :
    ∃ q, Pattern.compile p.1 .none = .ok q ∧ r = .simple q p.2 := by
  unfold standardRule at h
  split at h
  · next q hq =>
    cases h
    exact ⟨q, hq, rfl⟩
  · cases h

/-- The parts of a compiled language, in their order. -/
theorem exists_of_compile (h : spec.compile language = .ok rules) :
    ∃ blank own standard, rules = blank :: own ++ standard
      ∧ Standard (blankPattern, none) blank
      ∧ Forall₂ Rule.Anchors spec.rules own
      ∧ Forall₂ Standard spec.standard standard := by
  unfold compile at h
  obtain ⟨blank, hblank, h⟩ := exists_of_bind h
  obtain ⟨raw, hraw, h⟩ := exists_of_bind h
  obtain ⟨blank', hblank', h⟩ := exists_of_bind h
  obtain ⟨own, hown, h⟩ := exists_of_bind h
  obtain ⟨standard, hstandard, h⟩ := exists_of_bind h
  cases h
  refine ⟨blank', own, standard, rfl, ?_, ?_, ?_⟩
  · obtain ⟨q, hq, rfl⟩ := exists_of_standardRule hblank
    exact ⟨q, hq, anchors_of_anchored hblank'⟩
  · have hnumbered : Forall₂ (fun r r' => r.1.Anchors r')
        spec.rules.zipIdx own :=
      (forall₂_of_mapM hown).imp fun _ _ h => anchors_of_anchored h
    rw [← List.forall₂_map_left_iff, List.zipIdx_map_fst] at hnumbered
    exact hnumbered
  · refine forall₂_trans (forall₂_of_mapM hraw) (forall₂_of_mapM hstandard)
      fun p r r' hr hr' => ?_
    obtain ⟨q, hq, rfl⟩ := exists_of_standardRule hr
    exact ⟨q, hq, anchors_of_anchored hr'⟩

/-- Where a line ends no rule of a compiled language applies. -/
theorem unmatched_nil_of_compile (h : spec.compile language = .ok rules) :
    Scan.Unmatched rules [] := by
  obtain ⟨blank, own, standard, rfl, hblank, hown, hstandard⟩ :=
    exists_of_compile h
  intro r hr
  rcases List.mem_append.1 hr with hr | hr
  · rcases List.mem_cons.1 hr with rfl | hr
    · exact hblank.match_nil
    · obtain ⟨r₀, -, hr₀⟩ := exists_of_mem_right hown hr
      exact hr₀.match_nil
  · obtain ⟨p, -, hp⟩ := exists_of_mem_right hstandard hr
    exact hp.match_nil

end Spec

end Highlight
