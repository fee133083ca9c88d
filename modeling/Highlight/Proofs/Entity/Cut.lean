/-
What it takes for a token to begin or stop inside an entity: its rule must
have a match that does so in front of some escaped text (`Rule.Cuts`).

A token of a simple rule is one match (`cutsAt_of_match`). One of a
delimited rule begins with a match of the opening and stops at a match of
the closing, at the end of the text, or never inside an entity
(`cuts_of_closes`): where a line begins nothing is left of a character.
-/
import Highlight.Proofs.Entity.Seam

namespace Highlight

open Html (escape residues gateways entrances IsSeam IsGateway)
open Text (restAt)

-- ========================================================== vocabulary

namespace Pattern

/-- The match of the pattern from a gateway on begins or stops inside an
entity. -/
structure CutsAt (p : Pattern) (x line : Text) (n : Nat) : Prop where
  gateway : x ∈ gateways
  one_line : '\n' ∉ line
  matches_here : p.matchLength? (x ++ escape line) = .ok (some n)
  pos : 0 < n
  inside : x = [] → ¬ IsSeam [] line n

/-- Some match begins or stops inside an entity. -/
def Cuts (p : Pattern) : Prop := ∃ x line n, p.CutsAt x line n

/-- Some match begins inside an entity. -/
def BeginsInside (p : Pattern) : Prop :=
  ∃ x ∈ entrances, ∃ line n, '\n' ∉ line ∧ 0 < n
    ∧ p.matchLength? (x ++ escape line) = .ok (some n)

/-- Some search for the pattern, in escaped text or from inside an entity
on, ends inside an entity. -/
def EndsInside (p : Pattern) : Prop :=
  ∃ x ∈ residues, ∃ line n, '\n' ∉ line
    ∧ p.searchEnd? (x ++ escape line) = .ok (some n) ∧ ¬ IsSeam x line n

end Pattern

/-- The rule can make a token of escaped text that begins or stops inside
an entity. -/
def Rule.Cuts : Rule → Prop
  | .simple p _ => p.Cuts
  | .delimited p closing _ => p.BeginsInside ∨ closing.EndsInside

variable {p closing : Pattern} {source x t : Text} {o n m : Nat}

namespace Scan

-- ============================================================= closings

/-- A closing that stops inside no entity in one line stops inside none in
several. -/
theorem isSeam_of_closes (hc : ¬ closing.EndsInside) {l : Text}
    {ls : List Text} (hx : x ∈ residues) (hl : '\n' ∉ l)
    (hls : ∀ l ∈ ls, '\n' ∉ l)
    (h : Closes closing ((x ++ escape l) :: ls.map escape) m) :
    IsSeam x (l ++ Text.below ls) m := by
  induction ls generalizing x l m with
  | nil =>
      rw [Text.below_nil, List.append_nil]
      cases h with
      | found h =>
          by_contra hseam
          exact hc ⟨x, hx, l, m, hl, h, hseam⟩
      | later _ hmore _ => exact absurd rfl hmore
      | unclosed _ => exact Html.isSeam_end x l
  | cons l' ls ih =>
      rw [List.forall_mem_cons] at hls
      cases h with
      | found h =>
          refine Html.IsSeam.append ?_ _
          by_contra hseam
          exact hc ⟨x, hx, l, m, hl, h, hseam⟩
      | @later _ _ k _ _ hn =>
          have hrest : IsSeam [] (l' ++ Text.below ls) k :=
            ih List.mem_cons_self hls.1 hls.2 hn
          have hbehind := hrest.behind x (l ++ ['\n'])
          have hlen : (x ++ escape (l ++ ['\n'])).length
              = (x ++ escape l).length + 1 := by
            rw [Html.escape_append, ← List.append_assoc, List.length_append]
            rfl
          rw [hlen, List.append_assoc] at hbehind
          exact hbehind

theorem isSeam_of_closes_lines (hc : ¬ closing.EndsInside)
    (hx : x ∈ residues)
    (h : Closes closing (Text.lines (x ++ escape t)) m) :
    IsSeam x t m := by
  obtain ⟨ls, hls⟩ := Text.lines_eq_cons t
  have hmem := fun l hl => Text.lineFeed_not_mem_of_mem_lines (t := t)
    (l := l) hl
  rw [hls] at hmem
  have hlines : Text.lines (x ++ escape t)
      = (x ++ escape (Text.firstLine t)) :: ls.map escape := by
    refine Html.lines_append_of_not_mem
      (Html.lineFeed_not_mem_residue hx) ?_
    rw [Html.lines_escape, hls]
    rfl
  rw [hlines] at h
  have hseam := isSeam_of_closes hc hx (hmem _ List.mem_cons_self)
    (fun l hl => hmem l (List.mem_cons_of_mem _ hl)) h
  rwa [Text.firstLine_append_below hls] at hseam

-- =============================================================== tokens

/-- What is left of a line of escaped text. -/
theorem restAt_of_leaves (hx : x ∈ residues) {o' : Nat}
    (hdrop : (escape source).drop o = x ++ escape (source.drop o')) :
    restAt (escape source) o = x ++ escape (restAt source o') := by
  unfold restAt
  rw [hdrop, Html.firstLine_append_escape hx]

/-- The one match of a token that begins or stops inside an entity. -/
theorem cutsAt_of_match (ho : IsGateway source o) (hn : 0 < n)
    (hm : p.matchLength? (restAt (escape source) o) = .ok (some n))
    (hin : InEntity source o ∨ InEntity source (o + n)) :
    ∃ x line, restAt (escape source) o = x ++ escape line
      ∧ p.CutsAt x line n := by
  obtain ⟨x, hx, hleaves⟩ := ho
  obtain ⟨o', ho', hlen, hdrop⟩ := hleaves
  have hrest := restAt_of_leaves (Html.gateways_subset hx) hdrop
  refine ⟨x, restAt source o', hrest, hx,
    Text.lineFeed_not_mem_firstLine _, hrest ▸ hm, hn, ?_⟩
  rintro rfl hseam
  have hstop := (Html.isSeam_of_firstLine hseam).of_drop ho' hlen
  rcases hin with hin | hin
  · exact not_inEntity (Html.isSeam_of_leaves ⟨o', ho', hlen, hdrop⟩) hin
  · exact not_inEntity hstop hin

/-- The opening or the closing of a token that begins or stops inside an
entity. -/
theorem cuts_of_closes (ho : IsGateway source o) (hn : 0 < n)
    (hm : p.matchLength? (restAt (escape source) o) = .ok (some n))
    (hc : Closes closing (Text.lines ((escape source).drop (o + n))) m)
    (hin : InEntity source o ∨ InEntity source (o + (n + m))) :
    p.BeginsInside ∨ closing.EndsInside := by
  by_contra hnot
  rw [not_or] at hnot
  obtain ⟨x, hx, hleaves⟩ := ho
  obtain ⟨o', ho', hlen, hdrop⟩ := hleaves
  have hrest := restAt_of_leaves (Html.gateways_subset hx) hdrop
  rcases List.mem_cons.1 hx with rfl | hx
  · have hle := add_le_of_restAt hn (Pattern.matchLength?_le hm)
    obtain ⟨y, hy, o₂, ho₂, hlen₂, hdrop₂⟩ := Html.exists_residue hle
    rw [hdrop₂] at hc
    have hclose := isSeam_of_closes_lines hnot.2 hy hc
    have hstop := hclose.of_drop ho₂ hlen₂
    rw [Nat.add_assoc] at hstop
    rcases hin with hin | hin
    · exact not_inEntity (Html.isSeam_of_leaves ⟨o', ho', hlen, hdrop⟩) hin
    · exact not_inEntity hstop hin
  · exact hnot.1 ⟨x, hx, restAt source o', n,
      Text.lineFeed_not_mem_firstLine _, hn, hrest ▸ hm⟩

/-- A token that begins or stops inside an entity is one of a rule that
can make such tokens. -/
theorem cuts_of_extends {rule : Rule} (ho : IsGateway source o)
    (hn : 0 < n)
    (hm : rule.opening.matchLength? (restAt (escape source) o)
      = .ok (some n))
    (hext : Extends (escape source) o rule n m)
    (hin : InEntity source o ∨ InEntity source (o + m)) : rule.Cuts := by
  cases hext with
  | simple =>
      obtain ⟨x, line, -, hcut⟩ := cutsAt_of_match ho hn hm hin
      exact ⟨x, line, _, hcut⟩
  | delimited hc => exact cuts_of_closes ho hn hm hc hin

end Scan

end Highlight
