/-
Patterns that match the empty text nowhere, whatever text stands ahead.

A pattern is filled if it is orderly and its least width is not zero: then
it has an answer on every text, and a match takes a character at least
(`Pattern.matchLength?_ne_zero`). The test looks at the tree alone, so it
covers what stands ahead of the match as well: a pattern may match nothing
of the empty text and still match the empty text before a letter.

# Rows and alternatives

Rows and choices of nodes without groups have no groups, also after what
all alternatives begin with was moved out of them. A row takes some text
if a member does, a choice if all of its members do.
-/
import Highlight.Proofs.Regex.Reading

namespace Highlight.Regex.Node

-- ========================================================== vocabulary

/-- Every match takes a character at least. -/
def IsFilled (n : Node) : Prop := 0 < n.width.least

variable {a b : Node} {ns : List Node}

-- ================================================================ rows

theorem isFilled_char (c : Char) : (char c).IsFilled := Nat.one_pos

/-- Alternatives that make no choice of length are flat together. -/
theorem IsFlat.alt (ha : a.IsFlat) (hb : b.IsFlat) :
    (Node.alt a b).IsFlat :=
  ⟨(ha.seq hb).plain, (ha.seq hb).numbered⟩

/-- A sequence takes a character if one of its parts does. -/
theorem isFilled_seq (h : a.IsFilled ∨ b.IsFilled) :
    (Node.seq a b).IsFilled := by
  unfold IsFilled at *
  show 0 < min (a.width.least + b.width.least) (Width.cap - 1)
  have hcap : Width.cap - 1 = 4294967294 := rfl
  omega

/-- A row takes some text if one of its members does. -/
theorem isFilled_ofList (h : ∃ n ∈ ns, n.IsFilled) :
    (ofList ns).IsFilled := by
  induction ns with
  | nil => simp at h
  | cons n ns ih =>
      rw [List.exists_mem_cons_iff] at h
      cases ns with
      | nil => exact h.elim id fun h => by simp at h
      | cons m ns => exact isFilled_seq (h.imp id ih)

/-- A choice of flat parts is flat. -/
theorem isFlat_choice (h : ∀ n ∈ ns, n.IsFlat) : (choice ns).IsFlat := by
  induction ns with
  | nil => exact ⟨rfl, fun _ => rfl⟩
  | cons n ns ih =>
      rw [List.forall_mem_cons] at h
      exact h.1.alt (ih h.2)

/-- A choice takes some text if all of its members do. -/
theorem isFilled_choice (h : ∀ n ∈ ns, n.IsFilled) :
    (choice ns).IsFilled := by
  induction ns with
  | nil =>
      show 0 < Width.cap - 1
      decide
  | cons n ns ih =>
      rw [List.forall_mem_cons] at h
      have hrest := ih h.2
      have hn := h.1
      unfold IsFilled at *
      show 0 < min n.width.least (choice ns).width.least
      omega

-- ======================================================== alternatives

/-- What all alternatives begin with, and the rest of each. -/
theorem sharedLead_eq (first : List Node) (others : List (List Node)) :
    (sharedLead first others).2.map ((sharedLead first others).1 ++ ·)
      = first :: others := by
  fun_induction sharedLead first others with
  | case1 others => simp
  | case2 n ns others h lead branches hrec ih =>
      rw [hrec] at ih
      have hbegin : ∀ b ∈ others, n :: b.tail = b := by
        intro b hb
        have hhead := List.all_eq_true.1 (Bool.and_eq_true _ _ ▸ h).2 b hb
        exact List.cons_head?_tail (Option.mem_def.2 (beq_iff_eq.1 hhead))
      have hcons := congrArg (List.map (n :: ·)) ih
      rw [List.map_map, List.map_cons, List.map_map] at hcons
      refine hcons.trans (congrArg ((n :: ns) :: ·) ?_)
      exact (List.map_congr_left hbegin).trans (List.map_id _)
  | case3 n ns others h => simp

/-- Every alternative is what all begin with and one of the rests. -/
theorem of_sharedLead {first lead : List Node}
    {others rests : List (List Node)}
    (h : sharedLead first others = (lead, rests)) :
    rests ≠ [] ∧ ∀ b ∈ rests, lead ++ b ∈ first :: others := by
  have heq := sharedLead_eq first others
  rw [h] at heq
  constructor
  · rintro rfl
    cases heq
  · intro b hb
    rw [← heq]
    exact List.mem_map_of_mem hb

/-- What holds of sets and of alternatives, and of all nodes that are put
together, holds of what they make up. -/
theorem of_mem_ofBranches {P : Node → Prop} {fold : Fold} {ascii : Bool}
    {bs : List (List Node)} (hone : ∀ set, P (.one set))
    (hchoice : ∀ rests : List (List Node), (∀ b ∈ rests, ∀ n ∈ b, P n) →
      P (choice (rests.map ofList)))
    (h : ∀ b ∈ bs, ∀ n ∈ b, P n) : ∀ n ∈ ofBranches fold ascii bs, P n := by
  unfold ofBranches
  split
  · exact fun n hn => absurd hn List.not_mem_nil
  · next branch => exact h branch (List.mem_singleton_self _)
  · next first others _ =>
    rcases hshared : sharedLead first others with ⟨lead, rests⟩
    obtain ⟨hne, hmem⟩ := of_sharedLead hshared
    have hlead : ∀ n ∈ lead, P n := by
      obtain ⟨b, hb⟩ := List.exists_mem_of_ne_nil rests hne
      exact fun n hn => h _ (hmem b hb) n (List.mem_append_left b hn)
    have hrests : ∀ b ∈ rests, ∀ n ∈ b, P n := fun b hb n hn =>
      h _ (hmem b hb) n (List.mem_append_right lead hn)
    dsimp only
    split
    · intro n hn
      rcases List.mem_append.1 hn with hn | hn
      · exact hlead n hn
      · rw [List.mem_singleton.1 hn]
        exact hone _
    · intro n hn
      rcases List.mem_append.1 hn with hn | hn
      · exact hlead n hn
      · rw [List.mem_singleton.1 hn]
        exact hchoice rests hrests

/-- Alternatives without groups make up nodes without groups. -/
theorem isFlat_of_mem_ofBranches {fold : Fold} {ascii : Bool}
    {bs : List (List Node)} (h : ∀ b ∈ bs, ∀ n ∈ b, n.IsFlat) :
    ∀ n ∈ ofBranches fold ascii bs, n.IsFlat := by
  refine of_mem_ofBranches (fun _ => ⟨rfl, fun _ => rfl⟩) ?_ h
  intro rests hrests
  refine isFlat_choice (List.forall_mem_map.2 fun b hb => ?_)
  exact isFlat_ofList (hrests b hb)

/-- Alternatives that all take some text make up a row that does. -/
theorem exists_isFilled_of_ofBranches {fold : Fold} {ascii : Bool}
    {bs : List (List Node)} (hne : bs ≠ [])
    (h : ∀ b ∈ bs, ∃ n ∈ b, n.IsFilled) :
    ∃ n ∈ ofBranches fold ascii bs, n.IsFilled := by
  unfold ofBranches
  split
  · exact absurd rfl hne
  · next branch => exact h branch (List.mem_singleton_self _)
  · next first others _ =>
    rcases hshared : sharedLead first others with ⟨lead, rests⟩
    obtain ⟨-, hmem⟩ := of_sharedLead hshared
    dsimp only
    split
    · exact ⟨_, List.mem_append_right lead (List.mem_singleton_self _),
        Nat.one_pos⟩
    · by_cases hlead : ∃ n ∈ lead, n.IsFilled
      · obtain ⟨n, hn, hfilled⟩ := hlead
        exact ⟨n, List.mem_append_left _ hn, hfilled⟩
      · -- Nothing is taken before the alternatives part, so each rest does.
        refine ⟨_, List.mem_append_right lead (List.mem_singleton_self _),
          isFilled_choice (List.forall_mem_map.2 fun b hb => ?_)⟩
        obtain ⟨n, hn, hfilled⟩ := h _ (hmem b hb)
        rcases List.mem_append.1 hn with hn | hn
        · exact absurd ⟨n, hn, hfilled⟩ hlead
        · exact isFilled_ofList ⟨n, hn, hfilled⟩

-- =============================================================== words

/-- Any of some words, up to the edge of a word. -/
def listed (ws : List Text) : Node :=
  .seq (.group 1 (.words ws)) (.assertion (.boundary false))

/-- Words are flat, whatever their characters. -/
theorem isFlat_words (ws : List Text) : (words ws).IsFlat := by
  refine isFlat_ofList (isFlat_of_mem_ofBranches ?_)
  refine List.forall_mem_map.2 fun w _ => List.forall_mem_map.2 fun c _ => ?_
  exact isFlat_one _

/-- Nothing in a list of words looks at what was noted on the way. -/
theorem isPlain_listed (ws : List Text) : (listed ws).isPlain := by
  show ((words ws).isPlain && true) = true
  rw [(isFlat_words ws).plain]
  rfl

/-- The only group of a list of words has the number one. -/
theorem numbered_listed (ws : List Text) :
    (listed ws).numbered 0 = some 1 := by
  show ((words ws).numbered 1).bind _ = some 1
  rw [(isFlat_words ws).numbered]
  rfl

/-- Words with some text make up alternatives that take some. -/
theorem isFilled_words {ws : List Text} (hne : ws ≠ [])
    (hws : ∀ w ∈ ws, w ≠ []) : (words ws).IsFilled := by
  refine isFilled_ofList (exists_isFilled_of_ofBranches
    (fun h => hne (List.map_eq_nil_iff.1 h)) ?_)
  refine List.forall_mem_map.2 fun w hw => ?_
  obtain ⟨c, hc⟩ := List.exists_mem_of_ne_nil w (hws w hw)
  exact ⟨_, List.mem_map_of_mem hc, isFilled_char c⟩

/-- A comment takes its delimiter at least. -/
theorem isFilled_comment {d : Text} (hd : d ≠ []) :
    (comment d).IsFilled := by
  obtain ⟨c, hc⟩ := List.exists_mem_of_ne_nil d hd
  exact isFilled_ofList
    ⟨_, List.mem_append_left _ (List.mem_map_of_mem hc), isFilled_char c⟩

end Highlight.Regex.Node

-- ============================================================ patterns

namespace Highlight.Pattern

open Regex

variable {p q : Pattern}

/-- The pattern has an answer on every text, and a match takes a character
at least. -/
def isFilled (p : Pattern) : Bool :=
  p.isOrderly && 0 < p.node.width.least

/-- A filled pattern never matches an empty text. -/
theorem matchLength?_ne_zero (h : p.isFilled) (t : Text) :
    p.matchLength? t ≠ .ok (some 0) := by
  obtain ⟨horderly, hwidth⟩ := Bool.and_eq_true _ _ ▸ h
  exact ne_zero_of_width horderly (of_decide_eq_true hwidth) t

/-- The groups of an orderly pattern are never crossed by a match. -/
theorem matchLength?_ne_error (h : p.isOrderly) (t : Text) (x : Crossing) :
    p.matchLength? t ≠ .error x := by
  rw [matchLength?_eq h]
  nofun

/-- Nor are they by a search. -/
theorem searchEnd?_ne_error (h : p.isOrderly) (t : Text) (x : Crossing) :
    p.searchEnd? t ≠ .error x := by
  obtain ⟨hplain, hnum⟩ := Bool.and_eq_true _ _ ▸ h
  obtain ⟨g, hg⟩ := Option.isSome_iff_exists.1 hnum
  unfold searchEnd?
  split
  · rw [endOf_eq hplain hg fun x hx => exists_trail_of_seek hx]
    nofun
  · nofun

/-- An anchor changes nothing about whether a pattern is filled. -/
theorem isFilled_of_anchored {n : Node} {g : Nat}
    (hp : p.node = .anchored n) (hplain : n.isPlain)
    (hnum : n.numbered 0 = some g) (hfilled : n.IsFilled) : p.isFilled := by
  have hwidth : p.node.IsFilled := by
    rw [hp]
    exact Node.isFilled_seq (Or.inr hfilled)
  unfold isFilled
  rw [Bool.and_eq_true]
  exact ⟨isOrderly_of_anchored hp hplain hnum, decide_eq_true hwidth⟩

/-- A group of flags begins with a parenthesis. -/
theorem afterFlagGroup?_of_head {t : Text} (h : t.head? ≠ some '(') :
    afterFlagGroup? t = none := by
  unfold afterFlagGroup?
  split
  · exact absurd rfl h
  · rfl

/-- Its second character is a question mark. -/
theorem afterFlagGroup?_of_second {r : Text} (h : r.head? ≠ some '?') :
    afterFlagGroup? ('(' :: r) = none := by
  unfold afterFlagGroup?
  split
  · next heq =>
    cases heq
    exact absurd rfl h
  · rfl

/-- The tree of a comment is its delimiter and the rest of the line. -/
theorem node_of_comment {d : Text}
    (h : compile (literal d ++ ".*$".toList) .none = .ok q)
    (h' : q.anchor = .ok p) : p.node = .anchored (.comment d) := by
  have hflags : afterFlagGroup? (literal d ++ ".*$".toList) = none :=
    afterFlagGroup?_of_head
      (head?_literal_append (by decide) (by decide) (by decide))
  rw [node_of_anchor (fragment_comment d) hflags (by simp [Item.nodes])
    h h', List.flatMap_append, flatMap_nodes_char]
  rfl

/-- The tree of a list of words is a choice of them and a boundary behind.
-/
theorem node_of_words {ws : List Text} (hne : ws ≠ [])
    (h : compile ('(' :: choiceText ws ++ ")\\b".toList) .none = .ok q)
    (h' : q.anchor = .ok p) : p.node = .anchored (.listed ws) := by
  obtain ⟨w, ws, rfl⟩ := List.exists_cons_of_ne_nil hne
  exact node_of_anchor (fragment_words w ws)
    (afterFlagGroup?_of_second (head?_choiceText w ws (by decide)))
    (List.cons_ne_nil _ _) h h'

/-- A delimiter that is not empty, with the rest of the line. -/
theorem isFilled_of_comment {d : Text} (hd : d ≠ [])
    (h : compile (literal d ++ ".*$".toList) .none = .ok q)
    (h' : q.anchor = .ok p) : p.isFilled := by
  have hflat := isFlat_comment d
  exact isFilled_of_anchored (node_of_comment h h') hflat.plain
    (hflat.numbered 0) (Node.isFilled_comment hd)

/-- Any of some words of which none is empty. -/
theorem isFilled_of_words {ws : List Text} (hne : ws ≠ [])
    (hws : ∀ w ∈ ws, w ≠ [])
    (h : compile ('(' :: choiceText ws ++ ")\\b".toList) .none = .ok q)
    (h' : q.anchor = .ok p) : p.isFilled :=
  isFilled_of_anchored (node_of_words hne h h') (Node.isPlain_listed ws)
    (Node.numbered_listed ws)
    (Node.isFilled_seq (Or.inl (Node.isFilled_words hne hws)))

end Highlight.Pattern
