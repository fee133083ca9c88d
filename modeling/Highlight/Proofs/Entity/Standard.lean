/-
The standard rules of a language at a gateway: where their tokens stop,
and which of them begin or stop inside an entity (`passes_of_standard`).

From a gateway every standard rule leads to a gateway. Blanks, numbers
and strings have neither end inside an entity, since their patterns are
whole. A listed word has one there only if it begins like the rest of an
entity or ends like its beginning (`CutsWord`), a comment only if its
delimiter begins like the rest of an entity (`CutsDelimiter`). Both are
tried before the run of word characters, which takes the name of an
entity as it is.
-/
import Highlight.Proofs.Entity.Flow
import Highlight.Proofs.Language.Standard
import Highlight.Proofs.Regex.Edge

namespace Highlight

open Html (escape entityNames entrances IsGateway)
open Text (isWordChar InWord restAt)

-- ========================================================== vocabulary

namespace Html

/-- The word begins like the rest of an entity that a scan may come to, or
it ends like the beginning of one. -/
def CutsWord (w : Text) : Prop :=
  (∃ x ∈ entrances, x <+: w ∨ x = w ++ [';'])
    ∨ ∃ v ∈ [] :: entityNames, '&' :: v <:+ w

instance (w : Text) : Decidable (CutsWord w) :=
  inferInstanceAs (Decidable (_ ∨ _))

/-- The delimiter begins like the rest of an entity that a scan may come
to. -/
def CutsDelimiter (d : Text) : Prop :=
  ∃ x ∈ entrances, d <+: x ∨ x <+: d

instance (d : Text) : Decidable (CutsDelimiter d) :=
  inferInstanceAs (Decidable (∃ x ∈ entrances, _))

end Html

open Html (CutsWord CutsDelimiter)

/-- The words or the delimiter of a language that may make a token of
this text begin or stop inside an entity. -/
inductive Spec.MayCut (s : Spec) (text : Text) : Prop
  | word {ws : List Text} (hws : ws ∈ s.wordLists) (hw : text ∈ ws)
    (hcut : CutsWord text)
  | comment {d : Text} (hd : s.commentDelimiter = some d)
    (hpre : d <+: text) (hcut : CutsDelimiter d)

-- =============================================================== places

variable {source x line : Text} {o n : Nat} {p : Pattern}

/-- A match that does not stop within a word leads to a gateway. -/
theorem Scan.gateway_of_stopsAtEdge (hp : p.StopsAtEdge) (hn : 0 < n)
    (hm : p.matchLength? (restAt (escape source) o) = .ok (some n)) :
    IsGateway source (o + n) := by
  have hle := Pattern.matchLength?_le hm
  refine (Html.isGateway_or_inWord
    (add_le_of_restAt hn hle)).resolve_right ?_
  exact fun hword => hp _ n (Text.lineFeed_not_mem_firstLine _) hm
    (Text.inWord_restAt hn hle hword)

-- ================================================================ words

namespace Pattern

/-- A listed word that begins or stops inside an entity. -/
theorem cutsWord_of_cutsAt {ws : List Text} (hne : ws ≠ [])
    (hp : p.node = .anchored (.listed ws)) (h : p.CutsAt x line n) :
    (x ++ escape line).take n ∈ ws
      ∧ CutsWord ((x ++ escape line).take n) := by
  obtain ⟨⟨w, hw, hpre, rfl⟩, hedge⟩ :=
    exists_of_matchLength?_listed hne hp h.matches_here
  rw [← List.prefix_iff_eq_take.1 hpre]
  refine ⟨hw, ?_⟩
  rcases List.mem_cons.1 h.gateway with rfl | hx
  · -- from a seam on, the word ends inside an entity
    rcases Html.isSeam_or_inside hpre.length_le with hseam | ⟨v, y, hin⟩
    · exact absurd hseam (h.inside rfl)
    · rcases Html.named_or_word hin.cut with ⟨-, u, hu, rfl⟩ | ⟨hv, hy⟩
      · have hsuffix := hin.suffix
        rw [List.nil_append] at hpre
        rw [← List.prefix_iff_eq_take.1 hpre] at hsuffix
        exact Or.inr ⟨u, hu, hsuffix⟩
      · exact absurd (hin.inWord hv hy) hedge
  · left
    rcases List.prefix_or_prefix_of_prefix hpre
      (List.prefix_append x (escape line)) with hwx | hxw
    · have hall : ∀ x ∈ entrances, ∀ n ≤ x.length, 0 < n →
          x <+: x.take n ∨ x = x.take n ++ [';']
            ∨ (x.take n).getLast?.any isWordChar = true
              ∧ (x.drop n).head?.any isWordChar = true := by
        decide +kernel
      have hcase := hall x hx w.length hwx.length_le h.pos
      rw [← List.prefix_iff_eq_take.1 hwx] at hcase
      rcases hcase with hxw | hxw | ⟨hlast, hhead⟩
      · exact ⟨x, hx, Or.inl hxw⟩
      · exact ⟨x, hx, Or.inr hxw⟩
      · refine absurd ⟨?_, ?_⟩ hedge
        · rw [← List.prefix_iff_eq_take.1 hpre]
          exact hlast
        · rw [List.drop_append_of_le_length hwx.length_le]
          exact Html.any_head?_of_prefix (List.prefix_append _ _) hhead
    · exact ⟨x, hx, Or.inl hxw⟩

/-- A comment that begins inside an entity; none stops there. -/
theorem cutsDelimiter_of_cutsAt {d : Text}
    (hp : p.node = .anchored (.comment d)) (h : p.CutsAt x line n) :
    d <+: (x ++ escape line).take n ∧ CutsDelimiter d := by
  have hclean : '\n' ∉ x ++ escape line := by
    have hx := Html.lineFeed_not_mem_residue
      (Html.gateways_subset h.gateway)
    have hline := Html.lineFeed_not_mem_escape h.one_line
    simp [hx, hline]
  have hm := h.matches_here
  rw [matchLength?_comment hp hclean] at hm
  split at hm
  · next hpre =>
    cases hm
    rw [List.isPrefixOf_iff_prefix] at hpre
    rw [List.take_length]
    refine ⟨hpre, ?_⟩
    rcases List.mem_cons.1 h.gateway with rfl | hx
    · exact absurd (Html.isSeam_end [] line) (h.inside rfl)
    · exact ⟨x, hx, List.prefix_or_prefix_of_prefix hpre
        (List.prefix_append x (escape line))⟩
  · cases hm

end Pattern

-- ============================================================== matches

namespace Scan

/-- A token of so many characters leads to a gateway, and an end of it
inside an entity has the given cause. -/
structure Passes (source : Text) (o n : Nat) (cause : Prop) : Prop where
  gateway : IsGateway source (o + n)
  cause : InEntity source o ∨ InEntity source (o + n) → cause

variable {ws : List Text} {d : Text}

theorem passes_of_isWhole (hp : p.isWhole) (ho : IsGateway source o)
    (hn : 0 < n)
    (hm : p.matchLength? (restAt (escape source) o) = .ok (some n)) :
    Passes source o n False := by
  have hcause : ¬ (InEntity source o ∨ InEntity source (o + n)) := by
    intro hin
    obtain ⟨x, line, -, hcut⟩ := cutsAt_of_match ho hn hm hin
    exact Pattern.not_cuts_of_isWhole hp ⟨x, line, n, hcut⟩
  refine ⟨?_, hcause⟩
  exact (isSeam_of_not_inEntity
    (add_le_of_restAt hn (Pattern.matchLength?_le hm))
    fun hin => hcause (Or.inr hin)).isGateway

theorem passes_of_listed (hne : ws ≠ [])
    (hp : p.node = .anchored (.listed ws)) (ho : IsGateway source o)
    (hn : 0 < n)
    (hm : p.matchLength? (restAt (escape source) o) = .ok (some n)) :
    Passes source o n ((restAt (escape source) o).take n ∈ ws
      ∧ CutsWord ((restAt (escape source) o).take n)) where
  gateway := gateway_of_stopsAtEdge
    (Pattern.stopsAtEdge_of_listed hne hp) hn hm
  cause hin := by
    obtain ⟨x, line, hrest, hcut⟩ := cutsAt_of_match ho hn hm hin
    rw [hrest]
    exact Pattern.cutsWord_of_cutsAt hne hp hcut

theorem passes_of_comment (hp : p.node = .anchored (.comment d))
    (ho : IsGateway source o) (hn : 0 < n)
    (hm : p.matchLength? (restAt (escape source) o) = .ok (some n)) :
    Passes source o n (d <+: (restAt (escape source) o).take n
      ∧ CutsDelimiter d) where
  gateway := gateway_of_stopsAtEdge (Pattern.stopsAtEdge_of_comment hp) hn hm
  cause hin := by
    obtain ⟨x, line, hrest, hcut⟩ := cutsAt_of_match ho hn hm hin
    rw [hrest]
    exact Pattern.cutsDelimiter_of_cutsAt hp hcut

/-- Where not even a run of word characters matches, the next place is a
gateway. -/
theorem gateway_of_no_wordRun (hp : p.node = .anchored .wordRun)
    (ho : o < (escape source).length)
    (hm : p.matchLength? (restAt (escape source) o) = .ok none) :
    IsGateway source (o + 1) := by
  refine (Html.isGateway_or_inWord ho).resolve_right ?_
  exact Text.not_inWord_succ ho (Pattern.any_head?_of_no_wordRun hp hm)

end Scan

-- ====================================================== standard rules

namespace Spec

open Scan (Extends IsFirst Passes)

variable {spec : Spec} {pl : Text × Option String} {r : Rule} {m k : Nat}
  {rules : List Rule}

/-- Blanks, numbers and strings are whole. -/
theorem all_isWhole_fixedPatterns : ∀ t ∈ fixedPatterns,
    ((Pattern.compile t .none).bind Pattern.anchor).toOption.all
      (·.isWhole) = true := by
  decide +kernel

/-- The step of a standard rule. -/
theorem passes_of_standard
    (hp : pl ∈ (blankPattern, none) :: spec.standard) (hr : Standard pl r)
    (ho : IsGateway source o) (hn : 0 < n)
    (hm : r.opening.matchLength? (restAt (escape source) o)
      = .ok (some n))
    (hext : Extends (escape source) o r n m) :
    Passes source o m (r.label.isSome →
      spec.MayCut (Text.slice (escape source) o (o + m))) := by
  obtain ⟨q, hq, p, hanchor, -, rfl⟩ := hr
  change p.matchLength? (restAt (escape source) o) = .ok (some n) at hm
  cases hext
  rw [← Text.take_restAt (Pattern.matchLength?_le hm)]
  have hfixed {t : Text} {P : Prop} (ht : t ∈ fixedPatterns)
      (hq : Pattern.compile t .none = .ok q) : Passes source o n P := by
    have hpass := Scan.passes_of_isWhole
      (anchored_all (all_isWhole_fixedPatterns t ht) hq hanchor) ho hn hm
    exact ⟨hpass.gateway, fun hin => (hpass.cause hin).elim⟩
  rcases List.mem_cons.1 hp with rfl | hp
  · exact hfixed (by decide) hq
  · cases isStandard_of_mem hp with
    | words hws hne =>
        have hpass := Scan.passes_of_listed hne
          (Pattern.node_of_words hne hq hanchor) ho hn hm
        refine ⟨hpass.gateway, fun hin _ => ?_⟩
        obtain ⟨hw, hcut⟩ := hpass.cause hin
        exact .word hws hw hcut
    | number => exact hfixed (by decide) hq
    | strings hne => exact hfixed (strings_mem_fixedPatterns hne) hq
    | comment hd =>
        have hpass := Scan.passes_of_comment
          (Pattern.node_of_comment hq hanchor) ho hn hm
        refine ⟨hpass.gateway, fun hin _ => ?_⟩
        obtain ⟨hpre, hcut⟩ := hpass.cause hin
        exact .comment hd hpre hcut
    | wordRun =>
        have hnode := node_of_fixed (n := .wordRun) (by decide) hq hanchor
        exact ⟨Scan.gateway_of_stopsAtEdge
          (Pattern.stopsAtEdge_of_wordRun hnode) hn hm, fun _ h => by cases h⟩

end Spec

end Highlight
