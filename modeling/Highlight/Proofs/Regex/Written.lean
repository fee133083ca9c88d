/-
Patterns that are written from given texts: whatever the texts, they
compile, and so do they with an anchor.

A fragment is read to its end wherever it stands, so all that is left to
ask is whether something is wrong with its tree. A tree of characters,
spans and assertions has nothing that could be wrong (`Node.IsSound`),
also after the alternatives were put together.
-/
import Highlight.Proofs.Regex.Choice

namespace Highlight.Regex.Node

-- ========================================================== vocabulary

/-- Nothing is wrong with the node, in whatever pattern it stands. -/
structure IsSound (n : Node) : Prop where
  sound : n.fault? false = none
  near : n.looksFar = false

variable {a b n : Node} {ns : List Node}

-- =============================================================== trees

theorem isSound_one (set : CharSet) : (one set).IsSound := ⟨rfl, rfl⟩

theorem isSound_assertion (a : Assertion) : (assertion a).IsSound :=
  ⟨rfl, rfl⟩

/-- Nothing is wrong with a sequence if nothing is with its parts. -/
theorem IsSound.seq (ha : a.IsSound) (hb : b.IsSound) :
    (Node.seq a b).IsSound where
  sound := by
    show (a.fault? false <|> b.fault? false) = none
    rw [ha.sound, hb.sound]
    rfl
  near := by
    show (a.looksFar || b.looksFar) = false
    rw [ha.near, hb.near]
    rfl

/-- The same of two alternatives. -/
theorem IsSound.alt (ha : a.IsSound) (hb : b.IsSound) :
    (Node.alt a b).IsSound :=
  ⟨(ha.seq hb).sound, (ha.seq hb).near⟩

/-- The same of a group, whatever its number. -/
theorem IsSound.group (h : n.IsSound) (number : Nat) :
    (Node.group number n).IsSound :=
  ⟨h.sound, h.near⟩

/-- The same of nodes in a row. -/
theorem isSound_ofList (h : ∀ n ∈ ns, n.IsSound) : (ofList ns).IsSound := by
  induction ns with
  | nil => exact ⟨rfl, rfl⟩
  | cons n ns ih =>
      rw [List.forall_mem_cons] at h
      cases ns with
      | nil => exact h.1
      | cons m ns => exact h.1.seq (ih h.2)

/-- The same of a choice. -/
theorem isSound_choice (h : ∀ n ∈ ns, n.IsSound) : (choice ns).IsSound := by
  induction ns with
  | nil => exact ⟨rfl, rfl⟩
  | cons n ns ih =>
      rw [List.forall_mem_cons] at h
      exact h.1.alt (ih h.2)

/-- Words have no parts that could be wrong. -/
theorem isSound_words (ws : List Text) : (words ws).IsSound := by
  refine isSound_ofList (of_mem_ofBranches isSound_one ?_ ?_)
  · exact fun rests h => isSound_choice
      (List.forall_mem_map.2 fun r hr => isSound_ofList (h r hr))
  · exact List.forall_mem_map.2 fun w _ =>
      List.forall_mem_map.2 fun c _ => isSound_one _

/-- So a list of words passes the conditions on a finished tree. -/
theorem isSound_listed (ws : List Text) : (listed ws).IsSound :=
  ((isSound_words ws).group 1).seq (isSound_assertion _)

/-- So does a comment, since it looks behind nothing. -/
theorem isSound_comment (d : Text) : (comment d).IsSound := by
  refine isSound_ofList (List.forall_mem_append.2 ⟨?_, ?_⟩)
  · exact List.forall_mem_map.2 fun c _ => isSound_one _
  · simp only [List.forall_mem_cons]
    exact ⟨⟨rfl, rfl⟩, isSound_assertion _, nofun⟩

end Highlight.Regex.Node

namespace Highlight.Pattern

open Regex

variable {t : Text} {is : List Item} {k : Known} {q : Pattern}

-- =========================================================== fragments

/-- A fragment with nothing wrong in it is a pattern. -/
theorem compile_of_fragment (hfragment : Fragment t is k) (ht : t ≠ ['\\'])
    (hk : k.awaited = [])
    (hn : (Node.ofList (is.flatMap Item.nodes)).IsSound) :
    compile t .none = .ok {
      text := t, flags := .basic true,
      node := .ofList (is.flatMap Item.nodes) } := by
  have hread := hfragment false (.fresh .none) [] rfl rfl (Nat.zero_le 1)
    (by decide)
  rw [List.append_nil, State.read_nil] at hread
  refine compile_of_completes ht hread ⟨rfl, rfl, ?_, ?_, hn.sound, hn.near⟩
  · intro e he
    rw [show ((State.fresh .none).extended is k).known = k from rfl, hk] at he
    cases he
  · show _ = Node.ofList ((is.reverse ++ []).reverse.flatMap Item.nodes)
    rw [List.append_nil, List.reverse_reverse]

/-- Behind an anchor it is a pattern as well. -/
theorem anchor_of_fragment (hfragment : Fragment t is k)
    (hflags : afterFlagGroup? t = none) (hne : is.flatMap Item.nodes ≠ [])
    (hk : k.awaited = []) (hn : (Node.ofList (is.flatMap Item.nodes)).IsSound)
    (htext : q.text = t) (hq : q.flags = .basic true) :
    q.anchor = .ok {
      text := anchoredText t, flags := .basic true,
      node := .anchored (.ofList (is.flatMap Item.nodes)) } := by
  obtain ⟨s, hread, houter, hfs, hknown, hcontent⟩ :=
    hfragment.read_anchored
  have hnode : Node.ofList (.assertion .start :: is.flatMap Item.nodes)
      = .anchored (.ofList (is.flatMap Item.nodes)) := by
    obtain ⟨n, ns, hns⟩ := List.exists_cons_of_ne_nil hne
    rw [hns]
    rfl
  unfold anchor
  rw [htext, hq]
  have htext' := anchoredText_eq hflags
  refine compile_of_completes (htext' ▸ nofun) (htext' ▸ hread)
    ⟨houter, by rw [hfs]; rfl, fun e he => ?_, by rw [hcontent, hnode],
      ((Node.isSound_assertion .start).seq hn).sound,
      ((Node.isSound_assertion .start).seq hn).near⟩
  rw [hknown, hk] at he
  cases he

-- ============================================================== written

/-- A filled pattern does not match the empty text. -/
theorem matchLength?_nil_of_isFilled (h : q.isFilled) :
    q.matchLength? [] = .ok none := by
  rcases hm : q.matchLength? [] with x | _ | n
  · exact absurd hm (matchLength?_ne_error (Bool.and_eq_true _ _ ▸ h).1 [] x)
  · rfl
  · have hn : n = 0 := Nat.le_zero.1 (matchLength?_le hm)
    exact absurd (hn ▸ hm) (matchLength?_ne_zero h [])

/-- No edge of a word lies in the empty text, not even for empty words. -/
theorem matchLength?_nil_of_listed {ws : List Text} (hne : ws ≠ [])
    (hq : q.node = .anchored (.listed ws)) :
    q.matchLength? [] = .ok none := by
  have hnone : ws.find? (Text.isLedBy []) = none := by
    refine List.find?_eq_none.2 fun w _ h => ?_
    cases w <;> cases h
  rw [matchLength?_listed hne hq, hnone]
  rfl

/-- Any words in a row of alternatives, up to the edge of a word. -/
theorem exists_words {ws : List Text} (hne : ws ≠ []) :
    ∃ q p, compile ('(' :: choiceText ws ++ ")\\b".toList) .none = .ok q
      ∧ q.anchor = .ok p := by
  obtain ⟨w, ws, rfl⟩ := List.exists_cons_of_ne_nil hne
  have hsound := Node.isSound_listed (w :: ws)
  exact ⟨_, _, compile_of_fragment (fragment_words w ws) nofun rfl hsound,
    anchor_of_fragment (fragment_words w ws)
      (afterFlagGroup?_of_second (head?_choiceText w ws (by decide)))
      (List.cons_ne_nil _ _) rfl hsound rfl rfl⟩

/-- Any text and the rest of the line. -/
theorem exists_comment (d : Text) :
    ∃ q p, compile (literal d ++ ".*$".toList) .none = .ok q
      ∧ q.anchor = .ok p := by
  have hsound : (Node.ofList ((d.map Item.char
      ++ [Item.repeated (.span .greedy 0 none (.dot false)),
        Item.assertion .lastLineEnd]).flatMap Item.nodes)).IsSound := by
    rw [List.flatMap_append, flatMap_nodes_char]
    exact Node.isSound_comment d
  have htext : literal d ++ ".*$".toList ≠ ['\\'] := by
    intro h
    have := congrArg List.getLast? h
    rw [List.getLast?_append] at this
    cases this
  exact ⟨_, _, compile_of_fragment (fragment_comment d) htext rfl hsound,
    anchor_of_fragment (fragment_comment d)
      (afterFlagGroup?_of_head
        (head?_literal_append (by decide) (by decide) (by decide)))
      (by simp [Item.nodes]) rfl hsound rfl rfl⟩

end Highlight.Pattern
