/-
What a pattern can do to residues: from a place where something is left of
an escaped character, which residues may be left where a match stops.

The tree of the pattern is run on residues instead of texts (`Node.flow`).
A character of the text that was escaped is not known, only that an
entity begins with an ampersand; a character of an entity is known, so a
set takes it or does not. What follows is found for each residue at once,
since there are eight of them: a repetition stays in any set of residues
that one turn of it keeps.

The run over-approximates (`Node.moves_flow`): where it finds no residue,
the pattern has no match. So a look at one tree tells that no match begins or
stops inside an entity (`Pattern.not_cuts_of_isWhole`).
-/
import Highlight.Proofs.Entity.Cut
import Highlight.Proofs.Regex.Width
import Highlight.Proofs.Regex.Word

namespace Highlight

open Html (entityStarts entrances residues IsSeam)

-- ========================================================== vocabulary

namespace Regex

/-- What may be left of a character behind one of a set. -/
def CharSet.flow (set : CharSet) : Text → List Text
  | [] => [] :: if set.mem '&' then entityStarts else []
  | c :: x => if set.mem c then [x] else []

/-- The residues and those that so many steps lead to. -/
def spread (f : Text → List Text) : Nat → List Text → List Text
  | 0, xs => xs
  | n + 1, xs => spread f n (xs ∪ xs.flatMap f)

/-- Residues with the given ones among them that no step leads out of. -/
def closure (f : Text → List Text) (xs : List Text) : List Text :=
  let ys := spread f residues.length xs
  if ys.flatMap f ⊆ ys then ys else residues

/-- What any number of steps leads to, but for so many at least. -/
def repeated (f : Text → List Text) (least : Nat) (x : Text) : List Text :=
  if least = 0 then closure f [x] else closure f (f x)

/-- The residues at which a match from the given one on may stop. -/
def Node.flow : Node → Text → List Text
  | .empty, x => [x]
  | .fail, _ => []
  | .one set, x => set.flow x
  | .assertion _, x => [x]
  | .seq a b, x => (a.flow x).flatMap b.flow
  | .alt a b, x => a.flow x ∪ b.flow x
  | .span _ least _ set, x => repeated set.flow least x
  | .loop _ least _ n, x => repeated n.flow least x
  | .group _ n, x => n.flow x
  | .flagged n, x => n.flow x
  | .atomic n, x => n.flow x
  | .look .ahead false n, x => if n.flow x = [] then [] else [x]
  | .look _ _ _, x => [x]
  | .reference _ _ _, _ => []
  | .conditional _ _ _, _ => []

/-- A spot behind a residue and some escaped characters, with what is left
of the last of them. -/
structure Rests (x t : Text) (s : Spot) (y : Text) : Prop where
  mem : y ∈ residues
  lies : ∃ o ≤ t.length,
    s.pos + y.length = x.length + (Html.escape (t.take o)).length
      ∧ s.after = y ++ Html.escape (t.drop o)

/-- One of the residues is what is left at a spot. -/
def RestsIn (x t : Text) (ys : List Text) (s : Spot) : Prop :=
  ∃ y ∈ ys, Rests x t s y

/-- Where ends lead, as far as residues go. -/
def Moves (x t : Text) (e : Spot → List Spot) (f : Text → List Text) :
    Prop :=
  ∀ s y, Rests x t s y → ∀ u ∈ e s, RestsIn x t (f y) u

/-- No end leads out of the residues. -/
def Keeps (x t : Text) (e : Spot → List Spot) (ys : List Text) : Prop :=
  ∀ s, RestsIn x t ys s → ∀ u ∈ e s, RestsIn x t ys u

variable {x t y : Text} {s u : Spot} {ys zs : List Text}
  {e more : Spot → List Spot} {f g : Text → List Text} {set : CharSet}

-- ============================================================= residues

/-- At the start the whole residue is left. -/
theorem rests_start (hx : x ∈ residues) (t : Text) :
    Rests x t (.start (x ++ Html.escape t)) x where
  mem := hx
  lies := ⟨0, Nat.zero_le _, by simp [Spot.start], rfl⟩

/-- All spots of the text lie behind a residue and escaped characters. -/
theorem exists_rests (hx : x ∈ residues)
    (h : (Spot.start (x ++ Html.escape t)).Leads s) : ∃ y, Rests x t s y := by
  obtain ⟨w, ha, hb⟩ := h
  change x ++ Html.escape t = w ++ s.after at ha
  have hpos : s.pos = w.length := by
    rw [s.pos_eq, hb]
    simp [Spot.start]
  have hafter : s.after = (x ++ Html.escape t).drop s.pos := by
    rw [ha, hpos, List.drop_left]
  rcases Nat.le_total s.pos x.length with hle | hge
  · have hall : ∀ x ∈ residues, ∀ n ≤ x.length, x.drop n ∈ residues := by
      decide
    refine ⟨x.drop s.pos, hall x hx _ hle, 0, Nat.zero_le _, ?_, ?_⟩
    · rw [List.length_drop]
      simp
      omega
    · rw [hafter, List.drop_append_of_le_length hle]
      rfl
  · have hlen : s.pos - x.length ≤ (Html.escape t).length := by
      have hlength := congrArg List.length ha
      rw [List.length_append, List.length_append] at hlength
      omega
    obtain ⟨y, hy, o, ho, hsum, hdrop⟩ := Html.exists_residue hlen
    refine ⟨y, hy, o, ho, by omega, ?_⟩
    rw [hafter, List.drop_append, List.drop_of_length_le hge,
      List.nil_append, hdrop]

/-- With nothing left of a character, the spot is a seam. -/
theorem Rests.isSeam (h : Rests x t s []) : IsSeam x t s.pos := by
  obtain ⟨o, ho, hpos, -⟩ := h.lies
  exact ⟨o, ho, hpos⟩

/-- More residues may be allowed. -/
theorem RestsIn.mono (h : RestsIn x t ys s) (hys : ys ⊆ zs) :
    RestsIn x t zs s := by
  obtain ⟨y, hy, h⟩ := h
  exact ⟨y, hys hy, h⟩

theorem Rests.restsIn (h : Rests x t s y) : RestsIn x t [y] s :=
  ⟨y, List.mem_singleton_self y, h⟩

/-- An escaped character: one of its own, or an ampersand and the rest of
an entity. -/
theorem exists_of_escapeChar (c : Char) :
    ∃ d y, Html.escapeChar c = d :: y ∧ y ∈ residues
      ∧ (y = [] ∨ d = '&' ∧ y ∈ entityStarts) := by
  by_cases hc : c ∈ Html.specials
  · obtain ⟨w, hw, he⟩ := Html.escapeChar_of_mem hc
    have hall : ∀ w ∈ Html.entityNames, w ++ [';'] ∈ entityStarts
        ∧ w ++ [';'] ∈ residues := by
      decide
    obtain ⟨hstart, hres⟩ := hall w hw
    exact ⟨'&', w ++ [';'], he, hres, Or.inr ⟨rfl, hstart⟩⟩
  · exact ⟨c, [], Html.escapeChar_of_not_mem hc, List.mem_cons_self,
      Or.inl rfl⟩

/-- A residue without its first character is a residue. -/
theorem residue_of_cons {c : Char} (h : c :: y ∈ residues) :
    y ∈ residues := by
  have hall : ∀ z ∈ residues, z.tail ∈ residues := by decide
  exact hall _ h

-- ================================================================ steps

/-- One character on. -/
theorem moves_step (set : CharSet) :
    Moves x t (fun s => (s.step? set).toList) set.flow := by
  intro s y h u hu
  have hstep := Option.mem_toList.1 hu
  obtain ⟨c, hc, ha, -⟩ := Spot.step?_eq_some_iff.1 hstep
  have hpos := Spot.pos_of_step? hstep
  obtain ⟨o, ho, hlen, hafter⟩ := h.lies
  rw [ha] at hafter
  rcases y with _ | ⟨d, y⟩
  · -- the next character is the first one of an escaped one
    rcases Nat.lt_or_ge o t.length with hlt | hge
    · have hdrop := List.drop_eq_getElem_cons hlt
      obtain ⟨d, y, he, hy, hstart⟩ := exists_of_escapeChar t[o]
      rw [hdrop, Html.escape_cons, he] at hafter
      obtain ⟨rfl, hrest⟩ := List.cons.inj hafter
      refine ⟨y, ?_, hy, o + 1, hlt, ?_, hrest⟩
      · rcases hstart with rfl | ⟨rfl, hy⟩
        · exact List.mem_cons_self
        · simp only [CharSet.flow, if_pos hc]
          exact List.mem_cons_of_mem _ hy
      · rw [List.take_add_one, List.getElem?_eq_getElem hlt,
          Option.toList_some, Html.escape_append, List.length_append,
          Html.escape_cons, he, Html.escape_nil, List.append_nil,
          List.length_cons]
        rw [List.length_nil] at hlen
        omega
    · rw [List.drop_of_length_le hge] at hafter
      cases hafter
  · obtain ⟨rfl, hrest⟩ := List.cons.inj hafter
    refine ⟨y, ?_, residue_of_cons h.mem, o, ho, ?_, hrest⟩
    · simp only [CharSet.flow, if_pos hc]
      exact List.mem_singleton_self y
    · rw [List.length_cons] at hlen
      omega

/-- One search behind the other leads where both lead together. -/
theorem Moves.flatMap {e' : Spot → List Spot} (h : Moves x t e f)
    (h' : Moves x t e' g) :
    Moves x t (fun s => (e s).flatMap e') fun y => (f y).flatMap g := by
  intro s y hs u hu
  obtain ⟨v, hv, hu⟩ := List.mem_flatMap.1 hu
  obtain ⟨z, hz, hv⟩ := h s y hs v hv
  obtain ⟨w, hw, hu⟩ := h' v z hv u hu
  exact ⟨w, List.mem_flatMap.2 ⟨z, hz, hw⟩, hu⟩

-- ========================================================== repetitions

/-- Spreading forgets no residue. -/
theorem subset_spread (f : Text → List Text) (n : Nat) (ys : List Text) :
    ys ⊆ spread f n ys := by
  induction n generalizing ys with
  | zero => exact fun y hy => hy
  | succ n ih =>
      exact fun y hy => ih _ (List.mem_union_iff.2 (Or.inl hy))

/-- A closure holds what it was made from, and no step leads out of it. -/
theorem closure_spec (h : Moves x t e f) (ys : List Text) :
    (∀ s, RestsIn x t ys s → RestsIn x t (closure f ys) s)
      ∧ Keeps x t e (closure f ys) := by
  unfold closure
  dsimp only
  split
  · next hclosed =>
    refine ⟨fun s hs => hs.mono (subset_spread f _ ys), ?_⟩
    rintro s ⟨y, hy, hs⟩ u hu
    exact (h s y hs u hu).mono fun z hz =>
      hclosed (List.mem_flatMap.2 ⟨y, hy, hz⟩)
  · have hall {ys : List Text} {s : Spot} (h : RestsIn x t ys s) :
        RestsIn x t residues s := by
      obtain ⟨y, -, h⟩ := h
      exact ⟨y, h.mem, h⟩
    refine ⟨fun s => hall, ?_⟩
    rintro s ⟨y, -, hs⟩ u hu
    exact hall (h s y hs u hu)

/-- Turns that keep to the residues do so however many there are. -/
theorem Keeps.greedy (h : Keeps x t e ys) (n : Nat) (last : Option Nat) :
    Keeps x t (greedyEnds e n last) ys := by
  induction n generalizing last with
  | zero =>
      intro s hs u hu
      rw [List.mem_singleton.1 hu]
      exact hs
  | succ n ih =>
      intro s hs u hu
      unfold greedyEnds at hu
      split at hu
      · rw [List.mem_singleton.1 hu]
        exact hs
      · rcases List.mem_append.1 hu with hu | hu
        · obtain ⟨v, hv, hu⟩ := List.mem_flatMap.1 hu
          exact ih _ v (h s hs v hv) u hu
        · rw [List.mem_singleton.1 hu]
          exact hs

/-- The same of turns that stop as soon as they can. -/
theorem Keeps.lazy (h : Keeps x t e ys) (n : Nat) (last : Option Nat) :
    Keeps x t (lazyEnds e n last) ys := by
  induction n generalizing last with
  | zero =>
      intro s hs u hu
      rw [List.mem_singleton.1 hu]
      exact hs
  | succ n ih =>
      intro s hs u hu
      unfold lazyEnds at hu
      rcases List.mem_cons.1 hu with rfl | hu
      · exact hs
      · split at hu
        · cases hu
        · obtain ⟨v, hv, hu⟩ := List.mem_flatMap.1 hu
          exact ih _ v (h s hs v hv) u hu

/-- The same of a number of turns and what follows them. -/
theorem Keeps.times (h : Keeps x t e ys) (hmore : Keeps x t more ys)
    (n : Nat) : Keeps x t (timesEnds e more n) ys := by
  induction n with
  | zero => exact hmore
  | succ n ih =>
      intro s hs u hu
      obtain ⟨v, hv, hu⟩ := List.mem_flatMap.1 hu
      exact ih v (h s hs v hv) u hu

/-- The same of repeated characters. -/
theorem Keeps.reach (h : Keeps x t (fun s => (s.step? set).toList) ys)
    (n : Nat) : Keeps x t (fun s => s.reach set n) ys := by
  induction n with
  | zero =>
      intro s hs u hu
      rw [List.mem_singleton.1 hu]
      exact hs
  | succ n ih =>
      intro s hs u hu
      simp only [Spot.reach] at hu
      split at hu
      · next v hv =>
        rcases List.mem_cons.1 hu with rfl | hu
        · exact hs
        · exact ih v (h s hs v (Option.mem_toList.2 hv)) u hu
      · rw [List.mem_singleton.1 hu]
        exact hs

/-- Turns that have to be made lead where the first of them does, and on. -/
theorem moves_times (h : Moves x t e f)
    (hmore : ∀ ys, Keeps x t e ys → Keeps x t more ys) (least : Nat) :
    Moves x t (timesEnds e more least) (repeated f least) := by
  intro s y hs u hu
  unfold repeated
  rcases least with _ | n
  · rw [if_pos rfl]
    obtain ⟨hin, hkeeps⟩ := closure_spec h [y]
    exact hmore _ hkeeps s (hin s hs.restsIn) u hu
  · rw [if_neg (Nat.succ_ne_zero n)]
    obtain ⟨hin, hkeeps⟩ := closure_spec h (f y)
    obtain ⟨v, hv, hu⟩ := List.mem_flatMap.1 hu
    exact hkeeps.times (hmore _ hkeeps) n v (hin v (h s y hs v hv)) u hu

/-- What is reached by so many steps at least. -/
theorem moves_reach (set : CharSet) (n least : Nat) :
    Moves x t (fun s => (s.reach set n).drop least)
      (repeated set.flow least) := by
  intro s y hs u hu
  have hstep := moves_step (x := x) (t := t) set
  unfold repeated
  rcases least with _ | k
  · rw [if_pos rfl]
    obtain ⟨hin, hkeeps⟩ := closure_spec hstep [y]
    exact hkeeps.reach n s (hin s hs.restsIn) u hu
  · rw [if_neg (Nat.succ_ne_zero k)]
    obtain ⟨hin, hkeeps⟩ := closure_spec hstep (set.flow y)
    rcases n with _ | n
    · cases List.mem_of_mem_drop (i := k) hu
    · simp only [Spot.reach] at hu
      split at hu
      · next v hv =>
        have hv := hstep s y hs v (Option.mem_toList.2 hv)
        exact hkeeps.reach n v (hin v hv) u (List.mem_of_mem_drop hu)
      · cases List.mem_of_mem_drop (i := k) hu

/-- Repeated characters lead no further than any number of steps does. -/
theorem moves_span (a : Appetite) (least : Nat) (most : Option Nat)
    (set : CharSet) :
    Moves x t (spanEnds a least most set) (repeated set.flow least) := by
  intro s y hs u hu
  refine moves_reach set (most.getD s.left) least s y hs u ?_
  cases a with
  | greedy => exact List.mem_reverse.1 hu
  | lazy => exact hu
  | possessive => exact List.mem_of_getLast? (Option.mem_toList.1 hu)

-- ================================================================ nodes

/-- Looking around leaves the spot where it is. -/
theorem eq_of_mem_look {side : Side} {negated : Bool} {n : Node}
    (hu : u ∈ (Node.look side negated n).ends s) : u = s := by
  unfold Node.ends at hu
  split at hu
  · split at hu
    · exact List.mem_singleton.1 hu
    · cases hu
  · split at hu
    · exact List.mem_singleton.1 hu
    · cases hu

/-- Looking ahead needs an end of what is looked for. -/
theorem exists_of_mem_ahead {n : Node}
    (hu : u ∈ (Node.look .ahead false n).ends s) : ∃ v, v ∈ n.ends s := by
  have hpos : ¬ s.pos < Side.ahead.distance := Nat.not_lt_zero _
  unfold Node.ends at hu
  rw [if_neg hpos] at hu
  split at hu
  · next hends =>
    have hback : s.back Side.ahead.distance = s := Spot.back_zero s
    rw [hback] at hends
    exact List.exists_mem_of_ne_nil _ (List.isEmpty_eq_false_iff.1 hends)
  · cases hu

/-- The ends of a node leave what the run on residues finds. -/
theorem Node.moves_flow (n : Node) : Moves x t n.ends n.flow := by
  have hhere {s u : Spot} {y : Text} (hs : Rests x t s y) (hu : u ∈ [s]) :
      RestsIn x t [y] u := by
    rw [List.mem_singleton.1 hu]
    exact hs.restsIn
  induction n with
  | empty => exact fun s y hs u hu => hhere hs hu
  | fail => exact fun s y hs u hu => by cases hu
  | one set => exact moves_step set
  | assertion a =>
      intro s y hs u hu
      unfold ends at hu
      split at hu
      · exact hhere hs hu
      · cases hu
  | seq a b iha ihb => exact iha.flatMap ihb
  | alt a b iha ihb =>
      intro s y hs u hu
      rcases List.mem_append.1 hu with hu | hu
      · exact (iha s y hs u hu).mono fun z hz =>
          List.mem_union_iff.2 (Or.inl hz)
      · exact (ihb s y hs u hu).mono fun z hz =>
          List.mem_union_iff.2 (Or.inr hz)
  | span a least most set => exact moves_span a least most set
  | loop a least most n ih =>
      intro s y hs u hu
      cases a with
      | greedy =>
          -- The turns that have to be made lead somewhere; the optional
          -- ones stay among residues that no turn leads out of.
          exact moves_times ih (fun ys h => h.greedy _ none) least s y hs u hu
      | lazy =>
          exact moves_times ih (fun ys h => h.lazy _ none) least s y hs u hu
      | possessive => cases hu
  | group _ n ih => exact ih
  | flagged n ih => exact ih
  | atomic n ih =>
      exact fun s y hs u hu =>
        ih s y hs u (List.mem_of_head? (Option.mem_toList.1 hu))
  | look side negated n ih =>
      intro s y hs u hu
      have hu' : u ∈ [s] := List.mem_singleton.2 (eq_of_mem_look hu)
      cases side with
      | behind width => exact hhere hs hu'
      | ahead =>
          cases negated with
          | true => exact hhere hs hu'
          | false =>
              obtain ⟨v, hv⟩ := exists_of_mem_ahead hu
              obtain ⟨z, hz, -⟩ := ih s y hs v hv
              unfold flow
              rw [if_neg (List.ne_nil_of_mem hz)]
              exact hhere hs hu'
  | reference _ _ _ => exact fun s y hs u hu => by cases hu
  | conditional _ _ _ _ _ => exact fun s y hs u hu => by cases hu

end Regex

-- ============================================================= patterns

namespace Pattern

open Regex (Spot)

variable {p : Pattern} {x t : Text} {n : Nat}

/-- No match begins inside an entity, and none that begins elsewhere stops
inside one. -/
def isWhole (p : Pattern) : Bool :=
  p.isOrderly && entrances.all (p.node.flow · = [])
    && decide (p.node.flow [] ⊆ [[]])

/-- No match stops inside an entity, wherever it begins. -/
def isWholeEnd (p : Pattern) : Bool :=
  p.isOrderly && residues.all (p.node.flow · ⊆ [[]])

/-- A match leaves what the run on residues finds. -/
theorem exists_of_matchLength? (h : p.isOrderly) (hx : x ∈ residues)
    (hm : p.matchLength? (x ++ Html.escape t) = .ok (some n)) :
    ∃ u, Regex.RestsIn x t (p.node.flow x) u ∧ u.pos = n := by
  rw [matchLength?_eq h] at hm
  obtain ⟨u, hu, hpos⟩ := Option.map_eq_some_iff.1 (Except.ok.inj hm)
  exact ⟨u, p.node.moves_flow _ x (Regex.rests_start hx t) u
    (List.mem_of_head? hu), hpos⟩

/-- A search finds an end from some spot of the text on. -/
theorem exists_of_searchEnd? (h : p.isOrderly)
    (hs : p.searchEnd? t = .ok (some n)) :
    ∃ u v, (Spot.start t).Leads u ∧ v ∈ p.node.ends u ∧ v.pos = n := by
  obtain ⟨hplain, hnum⟩ := Bool.and_eq_true _ _ ▸ h
  obtain ⟨g, hg⟩ := Option.isSome_iff_exists.1 hnum
  unfold searchEnd? at hs
  split at hs
  · rw [endOf_eq hplain hg fun x hx => exists_trail_of_seek hx] at hs
    obtain ⟨x, hx, hpos⟩ := Option.map_eq_some_iff.1 (Except.ok.inj hs)
    obtain ⟨u, hu, htrail⟩ := exists_trail_of_seek hx
    have hfoot := Regex.foot_of_trail? hplain u
    rw [htrail] at hfoot
    exact ⟨u, x.foot, hu, List.mem_of_head? hfoot.symm, hpos⟩
  · cases hs

/-- A pattern whose tree leaves no residue from inside an entity has no
match there. -/
theorem not_beginsInside_of_isWhole (h : p.isWhole) : ¬ p.BeginsInside := by
  unfold isWhole at h
  simp only [Bool.and_eq_true, List.all_eq_true, decide_eq_true_eq] at h
  obtain ⟨⟨horderly, hinside⟩, -⟩ := h
  rintro ⟨x, hx, line, n, -, -, hm⟩
  obtain ⟨u, ⟨y, hy, -⟩, -⟩ := exists_of_matchLength? horderly
    (Html.gateways_subset (Html.entrances_subset hx)) hm
  rw [hinside x hx] at hy
  cases hy

/-- So no match of it begins or stops inside an entity. -/
theorem not_cuts_of_isWhole (h : p.isWhole) : ¬ p.Cuts := by
  rintro ⟨x, line, n, hc⟩
  rcases List.mem_cons.1 hc.gateway with rfl | hx
  · unfold isWhole at h
    simp only [Bool.and_eq_true, decide_eq_true_eq] at h
    obtain ⟨u, ⟨y, hy, hu⟩, rfl⟩ :=
      exists_of_matchLength? h.1.1 List.mem_cons_self hc.matches_here
    obtain rfl := List.mem_singleton.1 (h.2 hy)
    exact hc.inside rfl hu.isSeam
  · exact not_beginsInside_of_isWhole h
      ⟨x, hx, line, n, hc.one_line, hc.pos, hc.matches_here⟩

/-- No closing match stops inside one either. -/
theorem not_endsInside_of_isWholeEnd (h : p.isWholeEnd) :
    ¬ p.EndsInside := by
  unfold isWholeEnd at h
  simp only [Bool.and_eq_true, List.all_eq_true, decide_eq_true_eq] at h
  obtain ⟨horderly, hflow⟩ := h
  rintro ⟨x, hx, line, n, -, hs, hseam⟩
  obtain ⟨u, v, hu, hv, hpos⟩ := exists_of_searchEnd? horderly hs
  obtain ⟨z, hz⟩ := Regex.exists_rests hx hu
  obtain ⟨y, hy, hrests⟩ := p.node.moves_flow u z hz v hv
  obtain rfl := List.mem_singleton.1 (hflow z hz.mem hy)
  exact hseam (hpos ▸ hrests.isSeam)

end Pattern

/-- No token of the rule begins or stops inside an entity. -/
def Rule.isWhole : Rule → Bool
  | .simple p _ => p.isWhole
  | .delimited p closing _ => p.isWhole && closing.isWholeEnd

/-- A rule cuts no entity if its patterns do not. -/
theorem Rule.not_cuts_of_isWhole {r : Rule} (h : r.isWhole) : ¬ r.Cuts := by
  cases r with
  | simple p label => exact Pattern.not_cuts_of_isWhole h
  | delimited p closing label =>
      obtain ⟨hp, hc⟩ := Bool.and_eq_true _ _ ▸ h
      exact not_or.2 ⟨Pattern.not_beginsInside_of_isWhole hp,
        Pattern.not_endsInside_of_isWholeEnd hc⟩

end Highlight
