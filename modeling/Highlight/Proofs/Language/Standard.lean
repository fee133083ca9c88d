/-
The standard rules of a language cannot fail, whatever its words and its
delimiter are.

Every standard pattern compiles, also with an anchor, and matches no empty
text (`exists_standard`). The fixed ones are looked at; those written from
words and delimiters are fragments without anything that could be wrong.
So compiling a language comes down to its own rules (`compile_eq`).
-/
import Highlight.Proofs.Language.Filled
import Highlight.Proofs.Regex.Number
import Highlight.Proofs.Regex.Written

namespace Highlight

open List (Forall₂)

namespace Spec

open Regex (Node)

variable {spec : Spec} {p : Text × Option String} {r r' : Rule}
  {language : String}

-- ====================================================== fixed patterns

/-- The nodes that the fixed patterns stand for. -/
def fixedNodes : List (Text × Node) :=
  [(blankPattern, .blankRun), (numberPattern, .number),
    (doubleStringPattern, .quoted '"' 1),
    (singleStringPattern, .quoted '\'' 1),
    (doubleStringPattern ++ '|' :: singleStringPattern, .strings),
    (wordRunPattern, .wordRun)]

/-- All fixed patterns are read as the trees that the table lists. -/
theorem node_fixedNodes : ∀ x ∈ fixedNodes,
    ((Pattern.compile x.1 .none).bind Pattern.anchor).toOption.all
      (·.node = .anchored x.2) = true := by
  decide +kernel

/-- So the rule of a fixed pattern has the listed tree behind its anchor.
-/
theorem node_of_fixed {t : Text} {n : Node} {q q' : Pattern}
    (ht : (t, n) ∈ fixedNodes) (hq : Pattern.compile t .none = .ok q)
    (hq' : q.anchor = .ok q') : q'.node = .anchored n :=
  of_decide_eq_true (anchored_all (node_fixedNodes _ ht) hq hq')

-- =============================================================== rules

/-- A rule that can be anchored is compiled, whoever were to be blamed. -/
theorem anchored_of_anchors (h : r.Anchors r') (rule : Option Nat) :
    anchored language rule r = .ok r' := by
  obtain ⟨p, hp, hm, rfl⟩ := h
  unfold anchored
  dsimp only
  rw [hp]
  dsimp only
  rw [hm]

/-- A standard pattern that compiles becomes a rule. -/
theorem standardRule_of_compile {q : Pattern}
    (h : Pattern.compile p.1 .none = .ok q) :
    standardRule p = .ok (.simple q p.2) := by
  unfold standardRule
  rw [h]

theorem standard_of_anchor {q q' : Pattern}
    (h : Pattern.compile p.1 .none = .ok q) (h' : q.anchor = .ok q')
    (hnil : q'.matchLength? [] = .ok none) :
    Standard p ((Rule.simple q p.2).withOpening q') :=
  ⟨q, h, q', h', hnil, rfl⟩

/-- All fixed patterns compile, with and without an anchor. -/
theorem isSome_fixedPatterns : ∀ t ∈ wordRunPattern :: fixedPatterns,
    ((Pattern.compile t .none).bind Pattern.anchor).toOption.isSome = true
    := by
  decide +kernel

/-- A fixed pattern always gives a rule of the right form. -/
theorem exists_of_fixed {t : Text} (label : Option String)
    (ht : t ∈ wordRunPattern :: fixedPatterns) :
    ∃ r, Standard (t, label) r := by
  obtain ⟨q', hq'⟩ := Option.isSome_iff_exists.1 (isSome_fixedPatterns t ht)
  obtain ⟨q, hq, hanchor⟩ := exists_of_bind (eq_ok_of_toOption hq')
  exact ⟨_, standard_of_anchor hq hanchor (Pattern.matchLength?_nil_of_isFilled
    (isFilled_of_fixed ht hq hanchor))⟩

/-- So does a list with at least one word, whatever the words are. -/
theorem exists_of_words {ws : List Text} (label : String) (hne : ws ≠ []) :
    ∃ r, Standard (wordsPattern ws, some label) r := by
  obtain ⟨q, q', hq, hanchor⟩ := Pattern.exists_words hne
  exact ⟨_, standard_of_anchor hq hanchor (Pattern.matchLength?_nil_of_listed
    hne (Pattern.node_of_words hne hq hanchor))⟩

/-- So does a delimiter of comments, whatever its characters. -/
theorem exists_of_comment {d : Text} (hd : d ≠ []) :
    ∃ r, Standard (commentPattern d, some "comment") r := by
  obtain ⟨q, q', hq, hanchor⟩ := Pattern.exists_comment d
  exact ⟨_, standard_of_anchor hq hanchor (Pattern.matchLength?_nil_of_isFilled
    (Pattern.isFilled_of_comment hd hq hanchor))⟩

/-- Every standard pattern makes a rule. -/
theorem exists_standard (hp : p ∈ (blankPattern, none) :: spec.standard) :
    ∃ r, Standard p r := by
  rcases List.mem_cons.1 hp with rfl | hp
  · exact exists_of_fixed none (by decide)
  · cases isStandard_of_mem hp with
    | words _ hne => exact exists_of_words _ hne
    | number => exact exists_of_fixed _ (by decide)
    | strings hne =>
        exact exists_of_fixed _
          (List.mem_cons_of_mem _ (strings_mem_fixedPatterns hne))
    | comment _ hne => exact exists_of_comment hne
    | wordRun => exact exists_of_fixed none (by decide)

-- =========================================================== languages

/-- The standard rules are put around what becomes of the language's own
rules, and nothing else can go wrong. -/
theorem compile_eq (spec : Spec) (language : String) :
    ∃ blank standard, Standard (blankPattern, none) blank
      ∧ Forall₂ Standard spec.standard standard
      ∧ spec.compile language
        = (spec.rules.zipIdx.mapM fun (r, i) => anchored language (some i) r)
          >>= fun own => .ok (blank :: own ++ standard) := by
  obtain ⟨blank, q, hq, hblank⟩ :=
    exists_standard (List.mem_cons_self (l := spec.standard))
  -- The patterns are compiled first, and then anchored one by one.
  obtain ⟨raw, hraw⟩ := exists_mapM (f := standardRule) (l := spec.standard)
    fun p hp => by
      obtain ⟨r, q, hq, -⟩ := exists_standard (List.mem_cons_of_mem _ hp)
      exact ⟨_, standardRule_of_compile hq⟩
  obtain ⟨standard, hstandard⟩ :=
    exists_mapM (f := anchored language none) (l := raw) fun r hr => by
      obtain ⟨p, hp, hr⟩ := exists_of_mem_right (forall₂_of_mapM hraw) hr
      obtain ⟨r', q, hq, hanchors⟩ :=
        exists_standard (List.mem_cons_of_mem _ hp)
      cases hr.symm.trans (standardRule_of_compile hq)
      exact ⟨r', anchored_of_anchors hanchors none⟩
  refine ⟨blank, standard, ⟨q, hq, hblank⟩, ?_, ?_⟩
  · refine forall₂_trans (forall₂_of_mapM hraw) (forall₂_of_mapM hstandard)
      fun p r r' hr hr' => ?_
    obtain ⟨q, hq, rfl⟩ := exists_of_standardRule hr
    exact ⟨q, hq, anchors_of_anchored hr'⟩
  · unfold compile
    rw [standardRule_of_compile hq, hraw]
    show (anchored language none (.simple q none) >>= fun blank =>
      (spec.rules.zipIdx.mapM fun (r, i) => anchored language (some i) r)
        >>= fun own => raw.mapM (anchored language none)
          >>= fun standard => .ok (blank :: own ++ standard)) = _
    rw [anchored_of_anchors hblank, hstandard]
    rfl

end Spec

end Highlight
