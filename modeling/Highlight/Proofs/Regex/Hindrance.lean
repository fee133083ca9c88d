/-
Which patterns can be anchored.

The anchored text of a compiled pattern is read up to the anchor and from
there on in a group, under the flags that the pattern has ended with
(`State.parse_anchoredText`). Either that group holds what the pattern has
become, and then the whole is a pattern again: an assertion of the start
in front of the same nodes. Or a stop of the reading of the pattern itself
shows why not (`anchor_cases`).

# The hindrances

Groups of flags at the very start stay in front of the anchor, so they do
no harm. Everywhere else they come too late: behind blank space, behind a
comment, and also at the start if a letter keeps the group from being seen
as one of flags. A comment of a verbose pattern that runs up to the end
takes the closing parenthesis with it. And a pattern that is nested as
deep as may be has no room for a group around it.
-/
import Highlight.Proofs.Regex.Leading

-- ============================================================= readings

namespace Highlight.Regex.State

variable {s t : State} {fs gs : Flags} {n : Node} {r : Text}

/-- The anchor and the parenthesis behind it are read whatever the flags. -/
theorem read_anchoring (hr : r ≠ ['\\']) :
    (fresh fs).read ('^' :: '(' :: '?' :: ':' :: r)
      = (enclosed fs (r.length + 3)).read r := by
  have hanchor : (fresh fs).step ('^' :: '(' :: '?' :: ':' :: r)
      = .ok ((fresh fs).add (.assertion fs.anchor), '(' :: '?' :: ':' :: r) :=
    step_visible (by decide) (by decide) nofun
  have hopened : ((fresh fs).add (.assertion fs.anchor)).opened
      (.plain .none .none) (r.length + 3) r.length
        = .ok (enclosed fs (r.length + 3)) := by
    unfold opened
    dsimp only
    rw [show ((fresh fs).add (.assertion fs.anchor)).scope.flags = fs from rfl,
      Flags.within_none]
    rfl
  have hgroup : ((fresh fs).add (.assertion fs.anchor)).step
      ('(' :: '?' :: ':' :: r) = .ok (enclosed fs (r.length + 3), r) := by
    have hne : '?' :: ':' :: r ≠ ['\\'] := nofun
    refine (step_visible (by decide) (by decide) hne).trans ?_
    show (opening (r.length + 3) ('?' :: ':' :: r) >>= fun v =>
      ((fresh fs).add _).opened v.1 (r.length + 3) v.2.length
        >>= fun t => .ok (t, v.2)) = _
    rw [opening_plain _ hr]
    show (((fresh fs).add _).opened (.plain .none .none) (r.length + 3)
      r.length >>= fun t => .ok (t, r)) = _
    rw [hopened]
    rfl
  rw [read_of_step (List.cons_ne_nil _ _)
      (fun h => absurd (Option.some.inj h) (by decide)) hanchor,
    read_of_step (List.cons_ne_nil _ _)
      (fun h => absurd (Option.some.inj h) (by decide)) hgroup]

/-- What is awaited is there if it is there in the pattern alone. -/
theorem awaited_of_same (h : s.known.Same t.known)
    (hs : ∀ e ∈ s.known.awaited, e.1 ≤ s.known.count) :
    ∀ e ∈ t.known.awaited, e.1 ≤ t.known.count := by
  intro e he
  have hmem : e.1 ∈ s.known.awaited.map Prod.fst :=
    h.awaited ▸ List.mem_map_of_mem he
  obtain ⟨e', he', heq⟩ := List.mem_map.1 hmem
  rw [h.count_eq, ← heq]
  exact hs e' he'

/-- A pattern is as complete behind an anchor. -/
theorem Completes.anchored (h : s.Completes n gs) (houter : t.outer = [])
    (hscope : t.scope = (Scope.anchored gs).add (.spliced s.scope.content))
    (hknown : s.known.Same t.known) :
    t.Completes (.ofList (.assertion gs.anchor :: s.scope.content)) gs := by
  have hnode := h.node
  subst hnode
  have hcontent :
      t.scope.content = .assertion gs.anchor :: s.scope.content := by
    rw [hscope]
    show .assertion gs.anchor :: (s.scope.content ++ []) = _
    rw [List.append_nil]
  refine ⟨houter, ?_, awaited_of_same hknown h.awaited, by rw [hcontent],
    ?_, ?_⟩
  · rw [hscope]
    exact Flags.settle_of_settle h.flags
  · rw [← h.sound]
    cases s.scope.content <;> rfl
  · rw [← h.near]
    cases s.scope.content <;> rfl

end Highlight.Regex.State

-- =========================================================== anchoring

namespace Highlight.Pattern

open Regex

-- ========================================================== vocabulary

/-- The reading of a pattern comes to this place, behind the groups of
flags that its text begins with. -/
def Reaches (text : Text) (fs : Flags) (s : State) (r : Text) : Prop :=
  (State.fresh fs).Passes text s r ∧ r.length ≤ (afterFlagGroups text).length

/-- What keeps a pattern from being anchored, and how that is reported. -/
inductive Hindrance (text : Text) (fs : Flags) : Rejection → Prop
  /-- Flags for the whole pattern lie in the group behind the anchor. -/
  | flags {s : State} {r : Text} (h : Reaches text fs s r)
    (hr : BeginsFlags r) : Hindrance text fs
      (.fault .lateFlags (some (text.length - r.length + 4)))
  /-- The parenthesis behind the pattern is part of a comment. -/
  | comment {s : State} {r : Text} {place : Nat} (h : Reaches text fs s r)
    (hr : s.OpensComment r) :
    Hindrance text fs (.fault .openSubpattern (some place))
  /-- The group around the pattern is one too many. -/
  | depth {s : State} {r : Text} (h : Reaches text fs s r)
    (hs : State.depthLimit ≤ s.outer.length) : Hindrance text fs .tooDeep

/-- The pattern behind an anchor. -/
def behindAnchor (p : Pattern) (ns : List Node) : Pattern where
  text := anchoredText p.text
  flags := p.flags
  node := .ofList (.assertion p.flags.anchor :: ns)

variable {t w text : Text} {v : State × Text} {fs gs hs : Flags}
  {p : Pattern}

-- ======================================================== anchored text

/-- The anchor stands between the groups of flags and the rest. -/
theorem anchoredText_append (h : t = w ++ afterFlagGroups t) :
    anchoredText t = w ++ '^' :: '(' :: '?' :: ':'
      :: (afterFlagGroups t ++ [')']) := by
  have hlength : t.length - (afterFlagGroups t).length = w.length := by
    have := congrArg List.length h
    rw [List.length_append] at this
    omega
  have htake : t.take w.length = w := by
    conv_lhs => rw [h]
    exact List.take_left
  unfold anchoredText
  dsimp only
  rw [hlength, htake, List.append_assoc, List.append_assoc]
  rfl

theorem length_anchoredText (h : t = w ++ afterFlagGroups t) :
    (anchoredText t).length = t.length + 5 := by
  have hlength := congrArg List.length h
  rw [List.length_append] at hlength
  rw [anchoredText_append h, List.length_append]
  simp only [List.length_cons, List.length_append, List.length_nil]
  omega

/-- Behind the anchor the reading goes on in a group. -/
theorem parse_anchoredText
    (h : State.Preamble fs t v w gs (afterFlagGroups t)) (hle : gs.Le hs) :
    anchoredText t ≠ ['\\'] ∧ ∃ opened, parse (anchoredText t) hs
      = (State.enclosed hs opened).read (afterFlagGroups t ++ [')'])
        >>= fun v => v.1.result v.2 := by
  obtain ⟨hne, hread⟩ := h.again hs
    ('^' :: '(' :: '?' :: ':' :: (afterFlagGroups t ++ [')'])) hle nofun
  rw [anchoredText_append h.split]
  refine ⟨hne, (afterFlagGroups t ++ [')']).length + 3, ?_⟩
  unfold parse
  rw [settled_of_ne hne]
  show ((State.fresh hs).read _ >>= fun v => v.1.result v.2) = _
  rw [hread, State.read_anchoring (append_parenthesis_ne _)]

theorem anchor_of_error {e : Refusal}
    (h : parse (anchoredText p.text) p.flags = .error e) :
    p.anchor = .error (e.rejection (anchoredText p.text).length) := by
  unfold anchor compile
  rw [h]

/-- A pattern with its anchor is a pattern, or something hinders it. -/
theorem anchor_cases (h : compile text fs = .ok p) :
    (∃ ns, p.node = .ofList ns ∧ p.anchor = .ok (p.behindAnchor ns)
        ∧ ∀ s r, Reaches text fs s r → s.IsFree r)
      ∨ ∃ e, p.anchor = .error e ∧ Hindrance text fs e := by
  obtain ⟨s, ht, hread, rfl, hs⟩ := exists_of_compile h
  obtain ⟨w, gs, hpre⟩ := State.exists_preamble ht hread
  have hle : gs.Le p.flags := by
    have hgrow := State.flags_le_of_read hpre.rest
    rw [show s.root = s.scope by rw [State.root, hs.outer]; rfl] at hgrow
    exact hgrow.trans (Flags.le_of_settle hs.flags)
  obtain ⟨hne, opened, hparse⟩ := parse_anchoredText hpre hle
  have hends := State.read_enclosed opened hpre.settled hpre.rest hs.outer
    hs.flags
  generalize (State.enclosed p.flags opened).read
    (afterFlagGroups p.text ++ [')']) = x at hparse hends
  -- Places behind the groups of flags are places of the whole text.
  have hreach {s : State} {r : Text}
      (h : (State.fresh gs).Passes (afterFlagGroups p.text) s r) :
      Reaches p.text fs s r :=
    ⟨(hpre.passes s r h.length_le).2 h, h.length_le⟩
  cases hends with
  | @whole t houter hscope hknown hfree =>
      refine Or.inl ⟨_, hs.node, ?_, fun s r h =>
        hfree s r ((hpre.passes s r h.2).1 h.1)⟩
      have hparse' := hparse.trans (State.result_eq_ok_iff.2
        ⟨rfl, hs.anchored houter hscope hknown⟩)
      unfold anchor compile
      rw [hparse']
      rfl
  | @lost t u q houter hpasses hopens =>
      have hresult : t.result [] = refuse .openSubpattern t.scope.opened := by
        unfold State.result
        rw [if_pos (by simpa using houter)]
      exact Or.inr ⟨.fault .openSubpattern (some _),
        anchor_of_error (hparse.trans hresult),
        .comment (hreach hpasses) hopens⟩
  | @late u q hpasses hflags =>
      -- Places are counted from the end, which lies one character later,
      -- and the anchor has come in before it.
      have hplace : (anchoredText p.text).length - (q.length + 1)
          = p.text.length - q.length + 4 := by
        have hlength := congrArg List.length hpre.split
        rw [List.length_append] at hlength
        have := hpasses.length_le
        rw [length_anchoredText hpre.split]
        omega
      have herror : p.anchor = .error (.fault .lateFlags
          (some ((anchoredText p.text).length - (q.length + 1)))) :=
        anchor_of_error hparse
      rw [hplace] at herror
      exact Or.inr ⟨_, herror, .flags (hreach hpasses) hflags⟩
  | deep hpasses hdeep =>
      exact Or.inr ⟨.tooDeep, anchor_of_error hparse,
        .depth (hreach hpasses) hdeep⟩

theorem not_hindrance_of_free
    (h : ∀ s r, Reaches text fs s r → s.IsFree r) (e : Rejection) :
    ¬ Hindrance text fs e := by
  intro he
  cases he with
  | flags hreach hr => exact (h _ _ hreach).flags hr
  | comment hreach hr => exact (h _ _ hreach).comment hr
  | depth hreach hs => exact Nat.not_le.2 (h _ _ hreach).room hs

end Highlight.Pattern
