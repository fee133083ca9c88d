/-
An anchored pattern matches what the pattern itself matches at the start of
a text, and nothing anywhere else.

The anchor is written into the text of a pattern. Read again, this text is
an assertion of the start in front of the same nodes, under the same flags
(`Pattern.exists_of_anchor`). So an attempt at some place is an attempt of
the pattern itself if the assertion holds there, with the same trail, and
fails if not (`Pattern.trail?_anchored`). In a text of one line it holds at
the start only, also for patterns that know about lines
(`Pattern.holds_anchor_iff`).
-/
import Highlight.Proofs.Regex.Hindrance
import Highlight.Proofs.Regex.Word

namespace Highlight.Regex.State

theorem isCapped_fresh (fs : Flags) : (fresh fs).IsCapped :=
  ⟨⟨fun _ h => absurd h List.not_mem_nil,
      fun _ h => absurd h List.not_mem_nil⟩,
    fun _ h => absurd h List.not_mem_nil,
    fun _ h => absurd h List.not_mem_nil⟩

end Highlight.Regex.State

namespace Highlight.Pattern

open Regex

variable {t text : Text} {fs : Flags} {p q : Pattern} {ns : List Node}
  {a : Assertion}

theorem isCapped_of_compile (h : compile text fs = .ok p) :
    p.node.IsCapped := by
  obtain ⟨s, -, hread, -, hs⟩ := exists_of_compile h
  have hcapped := State.isCapped_of_read (State.isCapped_fresh fs) hread
  rw [hs.node]
  exact Node.isCapped_ofList hcapped.scope.content

/-- An anchored pattern is the assertion of the start and then the nodes of
the pattern itself, under the same flags. -/
theorem exists_of_anchor (h : compile text fs = .ok p)
    (h' : p.anchor = .ok q) :
    ∃ ns, p.node = .ofList ns
      ∧ q.node = .ofList (.assertion p.flags.anchor :: ns)
      ∧ (Node.ofList ns).IsCapped ∧ q.flags = p.flags := by
  rcases anchor_cases h with ⟨ns, hnode, hanchor, -⟩ | ⟨e, herror, -⟩
  · cases h'.symm.trans hanchor
    exact ⟨ns, hnode, rfl, hnode ▸ isCapped_of_compile h, rfl⟩
  · cases h'.symm.trans herror

-- ============================================================ attempts

/-- An attempt behind an assertion is one without it where that holds. -/
theorem trail?_anchored (a : Assertion) (ns : List Node) (s : Spot) :
    trail? (.ofList (.assertion a :: ns)) s
      = if s.holds a then trail? (.ofList ns) s else none := by
  have hrun :
      (Node.ofList (.assertion a :: ns)).run false s { foot := s } .done
      = if s.holds a then (Node.ofList ns).run false s { foot := s } .done
        else .failed { foot := s } := by
    cases ns <;> rfl
  unfold trail?
  rw [hrun]
  split <;> rfl

theorem least_anchored (a : Assertion) (h : (Node.ofList ns).IsCapped) :
    (Node.ofList (.assertion a :: ns)).width.least
      = (Node.ofList ns).width.least := by
  cases ns with
  | nil => rfl
  | cons n ns =>
      show min (0 + _) (Width.cap - 1) = _
      rw [Nat.zero_add]
      exact Nat.min_eq_left h

/-- Before an assertion a search asks for room and nothing else. -/
theorem scout_anchored (a : Assertion) (ns : List Node) (ascii : Bool) :
    (Node.ofList (.assertion a :: ns)).scout ascii
      = .room (Node.ofList (.assertion a :: ns)).width.least := by
  have hliterals : (Node.ofList (.assertion a :: ns)).literals
      = ([], false) := by
    cases ns <;> rfl
  have hset : (Node.ofList (.assertion a :: ns)).scoutSet? ascii = none := by
    cases ns <;> rfl
  unfold Node.scout
  split
  · next hzero => rw [hzero]
  · rw [hliterals, hset]

/-- In a text of one line the anchor holds at the start only. -/
theorem holds_anchor_iff (fs : Flags) {u : Spot} (ht : '\n' ∉ t)
    (hu : (Spot.start t).Leads u) :
    u.holds fs.anchor = true ↔ u = .start t := by
  obtain ⟨w, hafter, hbefore⟩ := hu
  change t = _ at hafter
  change _ = w.reverse ++ [] at hbefore
  rw [List.append_nil] at hbefore
  rcases List.eq_nil_or_concat w with rfl | ⟨w, c, rfl⟩
  · have heq : u = .start t := Spot.eq_of_halves hbefore hafter.symm
    rw [heq]
    unfold Flags.anchor
    split <;> exact ⟨fun _ => rfl, fun _ => rfl⟩
  · rw [List.concat_eq_append, List.reverse_append, List.reverse_singleton,
      List.singleton_append] at hbefore
    have hc : c ≠ '\n' := by
      rintro rfl
      apply ht
      rw [hafter]
      simp
    constructor
    · intro hholds
      unfold Flags.anchor at hholds
      split at hholds
      · simp only [Spot.holds, hbefore, List.head?_cons, Option.all_some,
          beq_iff_eq] at hholds
        exact absurd hholds hc
      · simp only [Spot.holds, hbefore, List.isEmpty_cons,
          Bool.false_eq_true] at hholds
    · rintro rfl
      cases hbefore

/-- Where no later attempt succeeds, a search comes down to the first. -/
theorem seek_start {scout : Scout} {n : Node}
    (hadmits : scout.admits (.start t) = true)
    (hother : ∀ u, (Spot.start t).Leads u → u ≠ .start t →
      trail? n u = none) :
    seek scout n (.start t) = trail? n (.start t) := by
  cases t with
  | nil => rw [seek_of_nil rfl, if_pos hadmits]
  | cons c r =>
      have hnone : seek scout n ((Spot.start (c :: r)).skip 1) = none := by
        rw [Option.eq_none_iff_forall_ne_some]
        intro x hx
        obtain ⟨u, hu, hx⟩ := exists_trail_of_seek hx
        have hne : u ≠ .start (c :: r) := by
          rintro rfl
          have hpos := hu.pos_le
          rw [Spot.pos_skip (Nat.le_add_left 1 _)] at hpos
          exact absurd hpos (Nat.not_succ_le_self _)
        rw [hother u ((Spot.leads_skip _ 1).trans hu) hne] at hx
        cases hx
      rw [seek_of_cons rfl, if_pos hadmits, hnone, Option.or_none]

/-- A pattern that is anchored keeps its flags and its meaning: at the start
of a text of one line it leaves the same trail, so it matches the same
text with the same groups, and nowhere else does it match. A search for it
finds just what a match at the start finds. -/
theorem anchor_agrees (h : compile text fs = .ok p) (h' : p.anchor = .ok q) :
    q.flags = p.flags ∧ ∀ t : Text, '\n' ∉ t →
      q.matchLength? t = p.matchLength? t
      ∧ q.searchEnd? t = p.matchLength? t
      ∧ trail? q.node (.start t) = trail? p.node (.start t)
      ∧ ∀ u, (Spot.start t).Leads u → u ≠ .start t →
        trail? q.node u = none := by
  obtain ⟨ns, hnode, hnode', hcapped, hflags⟩ := exists_of_anchor h h'
  refine ⟨hflags, fun t ht => ?_⟩
  have hstart : trail? q.node (.start t) = trail? p.node (.start t) := by
    rw [hnode, hnode', trail?_anchored,
      if_pos ((holds_anchor_iff _ ht (.refl _)).2 rfl)]
  have hother : ∀ u, (Spot.start t).Leads u → u ≠ .start t →
      trail? q.node u = none := by
    intro u hu hne
    rw [hnode', trail?_anchored,
      if_neg fun hholds => hne ((holds_anchor_iff _ ht hu).1 hholds)]
  have hfits : q.fits t = p.fits t := by
    unfold fits
    rw [hnode, hnode', least_anchored _ hcapped]
  have hmatch : q.matchLength? t = p.matchLength? t := by
    unfold matchLength?
    rw [hfits, hstart]
  refine ⟨hmatch, ?_, hstart, hother⟩
  rw [← hmatch]
  unfold searchEnd? matchLength?
  split
  · next hfit =>
    unfold fits at hfit
    rw [decide_eq_true_eq] at hfit
    have hadmits :
        (q.node.scout q.flags.ascii).admits (.start t) = true := by
      rw [hnode', scout_anchored, ← hnode']
      exact decide_eq_true (Nat.le_succ_of_le hfit)
    rw [seek_start hadmits hother]
  · rfl

/-- Alternatives behind a flag, one of them numbered. -/
def letters : Pattern :=
  (compile "(?i)a|(b)".toList .none).toOption.get (by decide +kernel)

theorem anchor_agrees_letters :
    ∃ q, compile "(?i)a|(b)".toList .none = .ok letters
      ∧ letters.anchor = .ok q ∧ q.flags = letters.flags
      ∧ q.matchLength? "Bc".toList = .ok (some 1)
      ∧ q.searchEnd? "cb".toList = .ok none := by
  have hletters : compile "(?i)a|(b)".toList .none = .ok letters :=
    eq_ok_get _
  obtain ⟨q, hq⟩ : ∃ q, letters.anchor = .ok q :=
    ⟨_, eq_ok_get (by decide +kernel)⟩
  obtain ⟨hflags, hagrees⟩ := anchor_agrees hletters hq
  refine ⟨q, hletters, hq, hflags, ?_, ?_⟩
  · rw [(hagrees "Bc".toList (by decide)).1]
    decide +kernel
  · rw [(hagrees "cb".toList (by decide)).2.1]
    decide +kernel

end Highlight.Pattern
