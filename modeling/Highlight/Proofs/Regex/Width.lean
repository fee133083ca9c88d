/-
How far a match reaches: not beyond the text, and at least as far as the
width of the pattern says.

So what a plain pattern with groups in order matches is its first end
(`Pattern.matchLength?_eq`): the test for room beforehand rules out
nothing, and no match fails for crossed groups.
-/
import Highlight.Proofs.Regex.Ends
import Highlight.Proofs.Regex.Marks

namespace Highlight.Regex

-- ========================================================== vocabulary

/-- All ends lie ahead in the text, by so many characters at least. -/
def Forward (d : Nat) (e : Spot → List Spot) : Prop :=
  ∀ s, ∀ u ∈ e s, s.Leads u ∧ s.pos + d ≤ u.pos

namespace Forward

variable {d d' : Nat} {e e' : Spot → List Spot}

/-- Ends that take some characters take fewer. -/
theorem mono (h : Forward d e) (hd : d' ≤ d) : Forward d' e :=
  fun s u hu => ⟨(h s u hu).1, Nat.le_trans (by omega) (h s u hu).2⟩

/-- Staying where one is takes nothing. -/
theorem here : Forward 0 fun s => [s] := by
  intro s u hu
  rw [List.mem_singleton.1 hu]
  exact ⟨.refl s, Nat.le_refl _⟩

/-- Two searches in a row take what both take. -/
theorem flatMap (h : Forward d e) (h' : Forward d' e') :
    Forward (d + d') fun s => (e s).flatMap e' := by
  intro s u hu
  obtain ⟨v, hv, hu⟩ := List.mem_flatMap.1 hu
  obtain ⟨hl, hp⟩ := h s v hv
  obtain ⟨hl', hp'⟩ := h' v u hu
  exact ⟨hl.trans hl', by omega⟩

/-- Of two searches side by side each takes at least that much. -/
theorem append (h : Forward d e) (h' : Forward d e') :
    Forward d fun s => e s ++ e' s := by
  intro s u hu
  rcases List.mem_append.1 hu with hu | hu
  · exact h s u hu
  · exact h' s u hu

/-- A number of turns takes as many times what one takes. -/
theorem times (h : Forward d e) (h' : Forward d' e') (n : Nat) :
    Forward (d * n + d') (timesEnds e e' n) := by
  induction n with
  | zero =>
      rw [Nat.mul_zero, Nat.zero_add]
      exact h'
  | succ n ih =>
      have hd : d * (n + 1) + d' = d + (d * n + d') := by
        rw [Nat.mul_succ]
        omega
      rw [hd]
      exact h.flatMap ih

/-- Optional turns may take nothing. -/
theorem greedy (h : Forward d e) (n : Nat) (last : Option Nat) :
    Forward 0 (greedyEnds e n last) := by
  induction n generalizing last with
  | zero => exact here
  | succ n ih =>
      intro s u hu
      unfold greedyEnds at hu
      split at hu
      · exact here s u hu
      · rcases List.mem_append.1 hu with hu | hu
        · exact ((h.mono (Nat.zero_le d)).flatMap (ih _)) s u hu
        · exact here s u hu

/-- Nor need they where they are tried late. -/
theorem lazy (h : Forward d e) (n : Nat) (last : Option Nat) :
    Forward 0 (lazyEnds e n last) := by
  induction n generalizing last with
  | zero => exact here
  | succ n ih =>
      intro s u hu
      unfold lazyEnds at hu
      rcases List.mem_cons.1 hu with rfl | hu
      · exact here _ _ (List.mem_singleton_self _)
      · split at hu
        · cases hu
        · exact ((h.mono (Nat.zero_le d)).flatMap (ih _)) s u hu

/-- Repeated characters take as many as are asked for. -/
theorem span (a : Appetite) (least : Nat) (most : Option Nat)
    (set : CharSet) : Forward least (spanEnds a least most set) := by
  intro s u hu
  have hmem : u ∈ (s.reach set (most.getD s.left)).drop least := by
    cases a with
    | greedy => exact List.mem_reverse.1 hu
    | lazy => exact hu
    | possessive => exact List.mem_of_getLast? (Option.mem_toList.1 hu)
  refine ⟨Spot.leads_of_mem_reach (List.mem_of_mem_drop hmem), ?_⟩
  obtain ⟨i, hi⟩ := List.getElem?_of_mem hmem
  rw [List.getElem?_drop] at hi
  rw [Spot.pos_of_getElem?_reach hi]
  omega

end Forward

-- ================================================================ nodes

/-- The ends of a plain node lie ahead, by the least width at least. -/
theorem Node.forward_ends {n : Node} (h : n.isPlain) :
    Forward n.width.least n.ends := by
  induction n with
  | empty => exact Forward.here
  | fail =>
      intro s u hu
      cases hu
  | one set =>
      intro s u hu
      have hstep := Option.mem_toList.1 hu
      exact ⟨Spot.leads_of_step? hstep,
        Nat.le_of_eq (Spot.pos_of_step? hstep).symm⟩
  | assertion a =>
      intro s u hu
      unfold ends at hu
      split at hu
      · exact Forward.here s u hu
      · cases hu
  | seq a b iha ihb =>
      obtain ⟨ha, hb⟩ := Bool.and_eq_true _ _ ▸ h
      exact ((iha ha).flatMap (ihb hb)).mono (Nat.min_le_left _ _)
  | alt a b iha ihb =>
      obtain ⟨ha, hb⟩ := Bool.and_eq_true _ _ ▸ h
      exact ((iha ha).mono (Nat.min_le_left _ _)).append
        ((ihb hb).mono (Nat.min_le_right _ _))
  | span a least most set =>
      refine (Forward.span a least most set).mono ?_
      show min (1 * least) _ ≤ least
      omega
  | loop a least most n ih =>
      obtain ⟨ha, hn⟩ := Bool.and_eq_true _ _ ▸ h
      have hf := ih hn
      intro s u hu
      cases a with
      | greedy =>
          exact (((hf.times (hf.greedy _ none) least)).mono
            (Nat.min_le_left _ _)) s u hu
      | lazy =>
          exact (((hf.times (hf.lazy _ none) least)).mono
            (Nat.min_le_left _ _)) s u hu
      | possessive => cases ha
  | group _ n ih => exact ih h
  | flagged n ih => exact ih h
  | atomic n ih =>
      intro s u hu
      exact ih h s u (List.mem_of_head? (Option.mem_toList.1 hu))
  | look side negated n ih =>
      intro s u hu
      -- Whatever a look finds, it stays where it is.
      refine Forward.here s u ?_
      unfold ends at hu
      split at hu
      · split at hu
        · exact hu
        · cases hu
      · split at hu
        · exact hu
        · cases hu
  | reference _ _ _ => cases h
  | conditional _ _ _ _ _ => cases h

end Highlight.Regex

-- ============================================================= patterns

namespace Highlight.Pattern

open Regex (Spot Node Trail Forward)

variable {p : Pattern} {t : Text}

/-- Nothing is noted that keeps a match from being told, and the groups
come in order. -/
def isOrderly (p : Pattern) : Bool :=
  p.node.isPlain && (p.node.numbered 0).isSome

/-- No spot lies behind the end. -/
theorem pos_le_of_leads {u : Spot} (h : (Spot.start t).Leads u) :
    u.pos ≤ t.length := by
  have htotal := h.total
  have hstart : (Spot.start t).pos + (Spot.start t).left = t.length :=
    Nat.zero_add _
  omega

/-- Where groups are in order, a trail gives its end and no error. -/
theorem endOf_eq {n : Node} (hp : n.isPlain) {g : Nat}
    (hn : n.numbered 0 = some g) {o : Option Trail}
    (ho : ∀ x, o = some x → ∃ s, (Spot.start t).Leads s
      ∧ trail? n s = some x) :
    endOf t o = .ok (o.map fun x => x.foot.pos) := by
  cases o with
  | none => rfl
  | some x =>
      obtain ⟨s, hs, hx⟩ := ho x rfl
      have hfoot := Regex.foot_of_trail? hp s
      rw [hx] at hfoot
      have hmem := List.mem_of_head? hfoot.symm
      have hle := pos_le_of_leads
        (hs.trans (Node.forward_ends hp s x.foot hmem).1)
      unfold endOf
      simp only [Regex.crossing?_of_trail? hn hx, Nat.min_eq_left hle]
      rfl

/-- A text too short for the pattern has no ends of it. -/
theorem ends_eq_nil_of_fits (hp : p.node.isPlain) (h : p.fits t = false)
    {s : Spot} (hs : (Spot.start t).Leads s) : p.node.ends s = [] := by
  rw [List.eq_nil_iff_forall_not_mem]
  intro u hu
  obtain ⟨hl, hw⟩ := Node.forward_ends hp s u hu
  have hle := pos_le_of_leads (hs.trans hl)
  unfold fits at h
  rw [decide_eq_false_iff_not] at h
  omega

/-- What an orderly pattern matches at the start of a text is its first
end there. -/
theorem matchLength?_eq (h : p.isOrderly) (t : Text) :
    p.matchLength? t
      = .ok ((p.node.ends (.start t)).head?.map Spot.pos) := by
  obtain ⟨hp, hn⟩ := Bool.and_eq_true _ _ ▸ h
  obtain ⟨g, hg⟩ := Option.isSome_iff_exists.1 hn
  unfold matchLength?
  cases hfits : p.fits t with
  | false =>
      rw [ends_eq_nil_of_fits hp hfits (.refl _)]
      rfl
  | true =>
      rw [if_pos rfl, endOf_eq hp hg fun x hx => ⟨_, .refl _, hx⟩,
        ← Regex.foot_of_trail? hp]
      cases trail? p.node (.start t) <;> rfl

/-- An orderly pattern of some width never matches the empty text. -/
theorem ne_zero_of_width (h : p.isOrderly) (hw : 0 < p.node.width.least)
    (t : Text) : p.matchLength? t ≠ .ok (some 0) := by
  rw [matchLength?_eq h]
  intro he
  obtain ⟨u, hu, hpos⟩ := Option.map_eq_some_iff.1 (Except.ok.inj he)
  obtain ⟨hp, -⟩ := Bool.and_eq_true _ _ ▸ h
  have hle := (Node.forward_ends hp _ u (List.mem_of_head? hu)).2
  omega

end Highlight.Pattern
