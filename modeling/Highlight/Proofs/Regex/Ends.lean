/-
The ends of a pattern: the spots where a match of it may stop, the
preferred one first.

A run tries these spots one after the other on what follows, and the first
that is accepted counts (`Node.run_follows`). So what a pattern matches is
the first of its ends (`Pattern.trail?_eq`), and statements about matches
become statements about lists.

# Plain patterns

Ends depend on the spot alone. Patterns that look at what was noted on the
way have none of their own: references, conditions and possessive loops,
which go on from where a failed turn left the foot. All others are plain.
-/
import Highlight.Proofs.Regex.Spot

namespace Highlight.Regex

-- ========================================================== vocabulary

/-- The ends of so many turns and what follows them. -/
def timesEnds (e more : Spot → List Spot) : Nat → Spot → List Spot
  | 0, s => more s
  | n + 1, s => (e s).flatMap (timesEnds e more n)

/-- The ends of at most so many turns, more of them first. The last turn
began at the given place. -/
def greedyEnds (e : Spot → List Spot) : Nat → Option Nat → Spot → List Spot
  | 0, _, s => [s]
  | n + 1, last, s =>
    if last = some s.pos then [s]
    else (e s).flatMap (greedyEnds e n (some s.pos)) ++ [s]

/-- The ends of at most so many turns, fewer of them first. -/
def lazyEnds (e : Spot → List Spot) : Nat → Option Nat → Spot → List Spot
  | 0, _, s => [s]
  | n + 1, last, s =>
    s :: if last = some s.pos then []
      else (e s).flatMap (lazyEnds e n (some s.pos))

/-- The ends of several characters of a set. -/
def spanEnds (a : Appetite) (least : Nat) (most : Option Nat)
    (set : CharSet) (s : Spot) : List Spot :=
  let spots := (s.reach set (most.getD s.left)).drop least
  match a with
  | .greedy => spots.reverse
  | .lazy => spots
  | .possessive => spots.getLast?.toList

namespace Node

/-- Runs of the node do not look at what was noted on the way. -/
def isPlain : Node → Bool
  | .empty | .fail | .one _ | .assertion _ => true
  | .span _ least most _ => most.all (least ≤ ·)
  | .seq a b | .alt a b => a.isPlain && b.isPlain
  | .loop a _ _ n => a != .possessive && n.isPlain
  | .group _ n | .flagged n | .atomic n | .look _ _ n => n.isPlain
  | .reference _ _ _ | .conditional _ _ _ => false

/-- The ends of a node, the preferred one first. -/
def ends : Node → Spot → List Spot
  | .empty, s => [s]
  | .fail, _ => []
  | .one set, s => (s.step? set).toList
  | .assertion a, s => if s.holds a then [s] else []
  | .seq a b, s => (a.ends s).flatMap b.ends
  | .alt a b, s => a.ends s ++ b.ends s
  | .span a least most set, s => spanEnds a least most set s
  | .loop a least most n, s =>
    let optional := Search.turns least most s
    match a with
    | .greedy => timesEnds n.ends (greedyEnds n.ends optional none) least s
    | .lazy => timesEnds n.ends (lazyEnds n.ends optional none) least s
    | .possessive => []
  | .group _ n, s => n.ends s
  | .flagged n, s => n.ends s
  | .atomic n, s => (n.ends s).head?.toList
  | .look side negated n, s =>
    if s.pos < side.distance then if negated then [s] else []
    else if (n.ends (s.back side.distance)).isEmpty = negated then [s]
    else []
  | .reference _ _ _, _ => []
  | .conditional _ _ _, _ => []

end Node

/-- A continuation that accepts spots by a test, whatever was noted. -/
structure Tail.Tests (k : Tail) (p : Spot → Bool) : Prop where
  found : ∀ s t, (k.go s t).found = p s
  barred : ∀ set, k.lead = some set → ∀ s, s.isBarred set → p s = false

/-- A run goes on from the first spot that passes the test, and fails if
there is none. -/
def Outcome.Picks (o : Outcome) (k : Tail) (p : Spot → Bool)
    (l : List Spot) : Prop :=
  match l.find? p with
  | none => o.found = false
  | some u => ∃ t, o = k.go u t

/-- A search that tries the ends given for each spot. -/
def Search.Follows (f : Search) (e : Spot → List Spot) : Prop :=
  ∀ s t k p, k.Tests p → (f s t k).Picks k p (e s)

-- ============================================================= outcomes

variable {k : Tail} {p : Spot → Bool} {o : Outcome} {l r : List Spot}

/-- A continuation that hides what it begins with accepts the same spots.
-/
theorem Tail.Tests.hidden (h : k.Tests p) : k.hidden.Tests p where
  found := h.found
  barred _ h := by cases h

/-- No spot is accepted where the continuation is barred. -/
theorem Tail.Tests.of_isBarred {s : Spot} (h : k.Tests p)
    (hs : k.isBarred s) : p s = false := by
  unfold Tail.isBarred at hs
  obtain ⟨set, hset, hb⟩ := Option.any_eq_true _ _ |>.1 hs
  rw [Bool.and_eq_true] at hb
  exact h.barred set hset s hb.2

/-- At the end of a pattern every spot is accepted. -/
theorem tests_done : Tail.done.Tests fun _ => true where
  found _ _ := rfl
  barred _ h := by cases h

namespace Outcome.Picks

theorem failed {t : Trail} : (failed t).Picks k p [] := rfl

/-- What follows is tried at one spot only. -/
theorem go {s : Spot} {t : Trail} (hk : k.Tests p) :
    (k.go s t).Picks k p [s] := by
  unfold Picks
  cases hs : p s with
  | false =>
      rw [List.find?_cons_of_neg (by simp [hs])]
      show (k.go s t).found = false
      rw [hk.found, hs]
  | true =>
      rw [List.find?_cons_of_pos hs]
      exact ⟨t, rfl⟩

/-- Something is found just if one of the spots is accepted. -/
theorem found (h : o.Picks k p l) (hk : k.Tests p) : o.found = l.any p := by
  unfold Picks at h
  split at h
  · next hl =>
    rw [h, eq_comm, List.any_eq_false]
    exact fun x hx => List.find?_eq_none.1 hl x hx
  · next u hu =>
    obtain ⟨t, rfl⟩ := h
    rw [hk.found, eq_comm, List.find?_some hu, List.any_eq_true]
    exact ⟨u, List.mem_of_find?_eq_some hu, List.find?_some hu⟩

/-- The spots of a second attempt come behind those of the first. -/
theorem orElse {f : Trail → Outcome} (h : o.Picks k p l) (hk : k.Tests p)
    (hf : ∀ t, (f t).Picks k p r) : (o.orElse f).Picks k p (l ++ r) := by
  have hfound := h.found hk
  unfold Picks at h ⊢
  unfold Outcome.orElse
  rw [List.find?_append]
  cases hu : l.find? p with
  | none =>
      rw [hu] at h
      simp only at h
      rw [h]
      exact hf o.trail
  | some u =>
      rw [hu] at h
      have hany : l.any p = true := List.any_eq_true.2
        ⟨u, List.mem_of_find?_eq_some hu, List.find?_some hu⟩
      rw [hfound, hany]
      exact h

/-- Going back behind a failure adds no spot. -/
theorem orBack {s : Spot} (h : o.Picks k p l) (hk : k.Tests p) :
    (o.orBack s).Picks k p l := by
  have := h.orElse (f := fun t => .failed (t.footAt s)) hk fun _ => failed
  rw [List.append_nil] at this
  exact this

/-- What the continuation notes before it goes on does not matter. -/
theorem through {j : Tail} (h : o.Picks j p l)
    (hgo : ∀ u t, ∃ v, j.go u t = k.go u v) : o.Picks k p l := by
  unfold Picks at h ⊢
  cases hu : l.find? p with
  | none =>
      rw [hu] at h
      exact h
  | some u =>
      rw [hu] at h
      obtain ⟨t, rfl⟩ := h
      exact hgo u t

/-- The first accepted of all further ends is one behind the first end that
has any. -/
theorem find?_flatMap {e : Spot → List Spot} :
    (l.flatMap e).find? p
      = (l.find? fun s => (e s).any p).bind fun u => (e u).find? p := by
  induction l with
  | nil => rfl
  | cons s l ih =>
      rw [List.flatMap_cons, List.find?_append, ih]
      cases hs : (e s).any p with
      | true =>
          rw [List.find?_cons_of_pos (p := fun s => (e s).any p) hs]
          obtain ⟨u, hu, hpu⟩ := List.any_eq_true.1 hs
          have hsome := List.find?_isSome.2 ⟨u, hu, hpu⟩
          obtain ⟨v, hv⟩ := Option.isSome_iff_exists.1 hsome
          rw [hv]
          exact hv.symm
      | false =>
          rw [List.find?_cons_of_neg (p := fun s => (e s).any p)
            (by simp [hs])]
          have hnone : (e s).find? p = none :=
            List.find?_eq_none.2 fun x hx => List.any_eq_false.1 hs x hx
          rw [hnone]
          rfl

/-- A run that hands on to further runs tries all their spots. -/
theorem flatMap {j : Tail} {e : Spot → List Spot}
    (h : o.Picks j (fun s => (e s).any p) l)
    (hgo : ∀ s t, (j.go s t).Picks k p (e s)) :
    o.Picks k p (l.flatMap e) := by
  unfold Picks at h ⊢
  rw [find?_flatMap]
  cases hu : l.find? fun s => (e s).any p with
  | none =>
      rw [hu] at h
      exact h
  | some u =>
      rw [hu] at h
      obtain ⟨t, rfl⟩ := h
      exact hgo u t

end Outcome.Picks

/-- A continuation made of a search tests spots by what the search
accepts. -/
theorem tests_of_picks {j : Tail} {e : Spot → List Spot}
    (hlead : j.lead = none) (hgo : ∀ s t, (j.go s t).Picks k p (e s))
    (hk : k.Tests p) : j.Tests fun s => (e s).any p where
  found s t := (hgo s t).found hk
  barred _ h := by
    rw [hlead] at h
    cases h

-- ================================================================ leads

/-- Where the lead of a node is missing, no end of it is accepted. -/
theorem Node.any_ends_of_lead {n : Node} {next : Option CharSet}
    {set : CharSet} {s : Spot} (h : n.lead next = some set)
    (hnext : ∀ set, next = some set → ∀ s, s.isBarred set → p s = false)
    (hs : s.isBarred set) : (n.ends s).any p = false := by
  induction n generalizing next p set s with
  | empty =>
      have hp := hnext set h s hs
      simp only [ends, List.any_cons, List.any_nil, Bool.or_false, hp]
  | one _ =>
      cases h
      rw [ends, Spot.step?_eq_none_iff.2 hs]
      rfl
  | seq a b iha ihb =>
      rw [ends, List.any_flatMap]
      exact iha h (fun _ hb _ hs => ihb hb hnext hs) hs
  | flagged n ih => exact ih h hnext hs
  | _ => cases h

-- ============================================================ searches

open Outcome.Picks (failed)

namespace Search

variable {f g : Search} {e e' : Spot → List Spot}

/-- Alternatives are tried in order. One that is barred has no ends anyway.
-/
theorem Follows.alt {nested : Bool} {lead : Option CharSet}
    (hf : f.Follows e) (hg : g.Follows e')
    (hlead : ∀ set, lead = some set → ∀ s, s.isBarred set → e s = []) :
    Follows (alt nested lead f g) fun s => e s ++ e' s := by
  intro s t k p hk
  unfold Search.alt
  split
  · next hb =>
    obtain ⟨set, hset, hbar⟩ := Option.any_eq_true _ _ |>.1 hb
    rw [Bool.and_eq_true] at hbar
    show Outcome.Picks _ k p (e s ++ e' s)
    rw [hlead set hset s hbar.2, List.nil_append]
    exact hg s t k p hk
  · have h : (f s (t.footAt s) k.hidden).Picks k p (e s) :=
      hf s _ k.hidden p hk.hidden
    exact h.orElse hk fun u => hg s _ k p hk

/-- The spots of a list are tried in its order. -/
theorem picks_firstOf {nested : Bool} {marks : List (Option Nat)}
    (hk : k.Tests p) (spots : List Spot) (t : Trail) :
    (firstOf nested marks k spots t).Picks k p spots := by
  induction spots generalizing t with
  | nil => exact failed
  | cons s spots ih =>
      unfold firstOf
      split
      · next hb =>
        have hp := hk.of_isBarred hb
        unfold Outcome.Picks
        rw [List.find?_cons_of_neg (by simp [hp])]
        exact ih t
      · exact (Outcome.Picks.go hk).orElse hk fun u => ih _

/-- The spots of a reach are tried in order without being listed. -/
theorem picks_stepwise {nested : Bool} {set : CharSet}
    {marks : List (Option Nat)} (hk : k.Tests p) (n : Nat) (s : Spot)
    (t : Trail) :
    (stepwise nested set marks k n s t).Picks k p (s.reach set n) := by
  induction n generalizing s t with
  | zero =>
      unfold stepwise
      refine (Outcome.Picks.go hk).orElse (r := []) hk fun u => ?_
      cases s.step? set with
      | none => exact failed
      | some next => exact failed
  | succ n ih =>
      unfold stepwise Spot.reach
      cases hs : s.step? set with
      | none => exact (Outcome.Picks.go hk).orElse hk fun u => failed
      | some next => exact (Outcome.Picks.go hk).orElse hk fun u => ih _ _

/-- Repeated characters end where their appetite says. -/
theorem Follows.span (nested : Bool) (a : Appetite) {least : Nat}
    {most : Option Nat} (set : CharSet) (hmost : most.all (least ≤ ·)) :
    Follows (span nested a least most set) (spanEnds a least most set) := by
  intro s t k p hk
  unfold Search.span spanEnds
  have hlen := Spot.length_reach_le s set (most.getD s.left)
  by_cases hleft : s.left < least
  · have hnil : (s.reach set (most.getD s.left)).drop least = [] :=
      List.drop_eq_nil_of_le (by omega)
    rw [if_pos hleft, hnil]
    cases a <;> exact failed
  rw [if_neg hleft]
  have hleast : least ≤ most.getD s.left := by
    cases most with
    | none => exact Nat.le_of_not_lt hleft
    | some m => simpa using hmost
  dsimp only
  cases a with
  | greedy =>
      rw [if_neg (show ¬ Appetite.greedy = .lazy by decide),
        Spot.reach_min_left]
      split
      · next hle =>
        rw [List.drop_eq_nil_of_le hle]
        exact failed
      · exact picks_firstOf hk _ _
  | possessive =>
      rw [if_neg (show ¬ Appetite.possessive = .lazy by decide),
        Spot.reach_min_left]
      split
      · next hle =>
        rw [List.drop_eq_nil_of_le hle]
        exact failed
      · next hle =>
        rw [List.getLast?_drop, if_neg hle, Spot.getLast?_reach]
        exact Outcome.Picks.go hk
  | lazy =>
      -- The characters that have to be taken are taken at once; from there
      -- on the reach is walked step by step.
      obtain ⟨m, hm⟩ := Nat.exists_eq_add_of_le
        (Nat.le_min.2 ⟨hleast, Nat.le_of_not_lt hleft⟩)
      rw [if_pos rfl, ← Spot.reach_min_left (most.getD s.left), hm,
        Spot.drop_reach, Nat.add_sub_cancel_left]
      have hlen := (Spot.length_reach_le s set least).1
      split
      · next hle =>
        rw [List.getElem?_eq_none hle]
        exact failed
      · next hle =>
        have hlast := Spot.getLast?_reach s set least
        rw [List.getLast?_eq_getElem?,
          show (s.reach set least).length - 1 = least by omega] at hlast
        rw [hlast]
        exact picks_stepwise hk _ _ _

/-- Iterations that have to be made, one behind the other. -/
theorem Follows.times (hf : f.Follows e) (hg : g.Follows e') (n : Nat) :
    Follows (times f g n) (timesEnds e e' n) := by
  induction n with
  | zero => exact hg
  | succ n ih =>
      intro s t k p hk
      unfold Search.times timesEnds
      have hgo : ∀ s t, (Search.times f g n s t k).Picks k p
          (timesEnds e e' n s) := fun s t => ih s t k p hk
      exact ((hf s _ _ _ (tests_of_picks rfl hgo hk)).flatMap hgo).orBack hk

/-- No more iterations: what follows is tried here. -/
theorem picks_stop {s : Spot} {t : Trail} (hk : k.Tests p) :
    (stop s t k).Picks k p [s] :=
  (Outcome.Picks.go hk).orBack hk

/-- Another iteration is tried before what follows. -/
theorem Follows.greedy (hf : f.Follows e) (n : Nat) (last : Option Nat) :
    Follows (greedy f n last) (greedyEnds e n last) := by
  induction n generalizing last with
  | zero => exact fun s t k p hk => picks_stop hk
  | succ n ih =>
      intro s t k p hk
      unfold Search.greedy greedyEnds
      split
      · exact picks_stop hk
      · have hgo : ∀ u t, (Search.greedy f n (some s.pos) u t k).Picks k p
            (greedyEnds e n (some s.pos) u) := fun u t => ih _ u t k p hk
        exact ((hf s _ _ _ (tests_of_picks rfl hgo hk)).flatMap hgo).orElse
          hk fun _ => picks_stop hk

/-- What follows is tried before another iteration. -/
theorem Follows.lazy {nested : Bool} (hf : f.Follows e) (n : Nat)
    (last : Option Nat) :
    Follows (lazy nested f n last) (lazyEnds e n last) := by
  induction n generalizing last with
  | zero =>
      intro s t k p hk
      unfold Search.lazy
      exact (Outcome.Picks.go hk).orElse (r := []) hk fun _ => failed
  | succ n ih =>
      intro s t k p hk
      unfold Search.lazy lazyEnds
      by_cases hlast : last = some s.pos
      · simp only [if_pos hlast]
        exact (Outcome.Picks.go hk).orElse hk fun u => failed
      · have hgo : ∀ u t, (Search.lazy nested f n (some s.pos) u t k).Picks
            k p (lazyEnds e n (some s.pos) u) := fun u t => ih _ u t k p hk
        simp only [if_neg hlast]
        exact (Outcome.Picks.go hk).orElse hk fun u =>
          ((hf s _ _ _ (tests_of_picks rfl hgo hk)).flatMap hgo).orBack hk

/-- A search on its own stops at its first end. -/
theorem Follows.alone (hf : f.Follows e) (s : Spot) (t : Trail) :
    ((f s t .done).found = !(e s).isEmpty)
      ∧ ∀ u, (e s).head? = some u → (f s t .done).trail.foot = u := by
  have h := hf s t .done _ tests_done
  have hfound := h.found tests_done
  unfold Outcome.Picks at h
  cases he : e s with
  | nil =>
      rw [he] at h
      exact ⟨h, fun u hu => by cases hu⟩
  | cons v l =>
      rw [he, List.find?_cons_of_pos rfl] at h
      obtain ⟨t', h⟩ := h
      rw [h]
      exact ⟨rfl, fun u hu => by cases hu; rfl⟩

/-- Only the first end of an atomic group counts. -/
theorem Follows.atomic (hf : f.Follows e) :
    Follows (atomic f) fun s => (e s).head?.toList := by
  intro s t k p hk
  obtain ⟨hfound, hfoot⟩ := hf.alone s (t.footAt s)
  unfold Search.atomic
  dsimp only
  cases he : e s with
  | nil =>
      rw [hfound, he]
      exact failed
  | cons u l =>
      rw [hfound, he, hfoot u (by rw [he]; rfl)]
      exact Outcome.Picks.go hk

/-- A look ends where it began, if it finds what it asks for. -/
theorem Follows.look {nested negated : Bool} {distance : Nat}
    (hf : f.Follows e) :
    Follows (look nested negated distance f) fun s =>
      if s.pos < distance then if negated then [s] else []
      else if (e (s.back distance)).isEmpty = negated then [s] else [] := by
  intro s t k p hk
  unfold Search.look
  dsimp only
  split
  · cases negated
    · exact failed
    · exact Outcome.Picks.go hk
  · obtain ⟨hfound, -⟩ :=
      hf.alone (s.back distance) (t.footAt (s.back distance))
    rw [hfound]
    cases (e (s.back distance)).isEmpty <;> cases negated
    · exact Outcome.Picks.go hk
    · exact failed
    · exact failed
    · exact Outcome.Picks.go hk

end Search

-- ================================================================ nodes

open Search (Follows)

/-- The second part is tried at each end of the first. -/
theorem Search.Follows.seq {nested : Bool} {a b : Node}
    (ha : Follows (a.run nested) a.ends)
    (hb : Follows (b.run nested) b.ends) :
    Follows ((Node.seq a b).run nested) (Node.seq a b).ends := by
  intro s t k p hk
  have hgo : ∀ u t, (b.run nested u t k).Picks k p (b.ends u) :=
    fun u t => hb u t k p hk
  refine (ha s t _ _ ?_).flatMap hgo
  exact {
    found := fun u t => (hgo u t).found hk
    barred := fun set hset u hu =>
      Node.any_ends_of_lead hset hk.barred hu }

/-- A plain node is run by trying its ends. -/
theorem Node.run_follows {n : Node} (h : n.isPlain) (nested : Bool) :
    Follows (n.run nested) n.ends := by
  induction n generalizing nested with
  | empty => exact fun s t k p hk => Outcome.Picks.go hk
  | fail => exact fun s t k p hk => failed
  | one set =>
      intro s t k p hk
      unfold Node.run Node.ends
      cases s.step? set with
      | none => exact failed
      | some u => exact Outcome.Picks.go hk
  | assertion a =>
      intro s t k p hk
      unfold Node.run Node.ends
      split
      · exact Outcome.Picks.go hk
      · exact failed
  | seq a b iha ihb =>
      obtain ⟨ha, hb⟩ := Bool.and_eq_true _ _ ▸ h
      exact (iha ha nested).seq (ihb hb nested)
  | alt a b iha ihb =>
      obtain ⟨ha, hb⟩ := Bool.and_eq_true _ _ ▸ h
      refine (iha ha nested).alt (ihb hb nested) fun set hset s hs => ?_
      have hnone := any_ends_of_lead (p := fun _ => true) hset
        (fun _ h => by cases h) hs
      rw [List.any_eq_false] at hnone
      exact List.eq_nil_iff_forall_not_mem.2 fun u hu => hnone u hu rfl
  | span a least most set => exact Follows.span nested a set h
  | loop a least most n ih =>
      obtain ⟨ha, hn⟩ := Bool.and_eq_true _ _ ▸ h
      intro s t k p hk
      have hf := ih hn (nested || a != .possessive)
      cases a with
      | greedy => exact (hf.times (hf.greedy _ none) least) s _ k p hk
      | lazy => exact (hf.times (hf.lazy _ none) least) s _ k p hk
      | possessive => cases ha
  | group i n ih =>
      intro s t k p hk
      -- The marks of the group are set on the way, but no test looks at
      -- them.
      have htests : Tail.Tests { go := fun s t => k.go s (t.leave i s) } p :=
        ⟨fun u t => hk.found u _, fun _ h => by cases h⟩
      exact (ih h nested s (t.enter i s) _ p htests).through
        fun u t => ⟨_, rfl⟩
  | flagged n ih => exact ih h nested
  | atomic n ih => exact (ih h nested).atomic
  | look side negated n ih => exact (ih h nested).look
  | reference _ _ _ => cases h
  | conditional _ _ _ _ _ => cases h

/-- A match at a spot reaches to the first end of the pattern there. -/
theorem foot_of_trail? {n : Node} (h : n.isPlain) (s : Spot) :
    (Pattern.trail? n s).map Trail.foot = (n.ends s).head? := by
  obtain ⟨hfound, hfoot⟩ := (Node.run_follows h false).alone s { foot := s }
  unfold Pattern.trail?
  dsimp only
  rw [hfound]
  cases he : n.ends s with
  | nil => rfl
  | cons u l =>
      rw [he] at hfoot
      exact congrArg some (hfoot u rfl)

end Highlight.Regex
