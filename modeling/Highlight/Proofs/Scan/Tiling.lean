/-
The tokens of a finished scan are the source, cut into pieces: no piece
is empty, each begins where the one before it stopped, each holds the
text between its two ends, and all ends are true positions of the source
(`tokenize_tiles`).

What may keep a scan from its end is a rule that takes no text, or a
pattern that itself cannot say what it matched. The cursor that walks
through the lines always stays inside them.
-/
import Highlight.Language.Builtin
import Highlight.Proofs.Scan.Lexed
import Mathlib.Data.List.Chain

namespace Highlight

open Regex (Crossing)
open Text (positionAt slice restAt)

-- ========================================================== vocabulary

/-- Tokens that cover a source from its start to its end. -/
structure Tiling (source : Text) (ts : List Token) : Prop where
  text_ne_nil : ∀ t ∈ ts, t.text ≠ []
  text_eq : ∀ t ∈ ts, t.text = slice source t.start.offset t.stop.offset
  start_eq : ∀ t ∈ ts, t.start = positionAt source t.start.offset
  stop_eq : ∀ t ∈ ts, t.stop = positionAt source t.stop.offset
  stop_le : ∀ t ∈ ts, t.stop.offset ≤ source.length
  first_start : ∀ t, ts.head? = some t → t.start = .origin
  joined : ts.IsChain fun t u => u.start = t.stop
  last_stop : ∀ t, ts.getLast? = some t → t.stop.offset = source.length
  eq_nil_iff : ts = [] ↔ source = []

/-- A pattern of the rule fails on some line, because the groups of a
match are crossed. -/
def Rule.Raises (r : Rule) (x : Crossing) : Prop :=
  ∃ line, '\n' ∉ line ∧ (r.opening.matchLength? line = .error x
    ∨ ∃ p closing label, r = .delimited p closing label
      ∧ closing.searchEnd? line = .error x)

namespace Scan

variable {rules : List Rule} {source : Text}

-- =============================================================== paths

theorem Lexed.start_offset {o : Nat} {t : Token}
    (h : Lexed rules source o t) : t.start.offset = o := by
  obtain ⟨m, -, -, ht⟩ := h.bounds
  rw [ht]
  rfl

theorem Path.le {o e : Nat} {ts : List Token} (h : Path rules source o ts e) :
    o ≤ e := by
  induction h with
  | nil o => exact Nat.le_refl o
  | cons ht _ ih =>
      obtain ⟨m, -, -, heq⟩ := ht.bounds
      rw [heq] at ih
      exact Nat.le_trans (Nat.le_add_right _ m) ih

/-- No token on a path begins before it does. -/
theorem Path.le_start {o e : Nat} {ts : List Token} {t : Token}
    (h : Path rules source o ts e) (ht : t ∈ ts) : o ≤ t.start.offset := by
  induction h with
  | nil o => cases ht
  | @cons o e v ts hlex _ ih =>
      rcases List.mem_cons.1 ht with rfl | ht
      · exact Nat.le_of_eq hlex.start_offset.symm
      · obtain ⟨m, -, -, heq⟩ := hlex.bounds
        have hle := ih ht
        rw [heq] at hle
        exact Nat.le_trans (Nat.le_add_right _ m) hle

/-- Every token on a path stands at some offset. -/
theorem Path.exists_lexed {o e : Nat} {ts : List Token} {t : Token}
    (h : Path rules source o ts e) (ht : t ∈ ts) :
    Lexed rules source t.start.offset t := by
  induction h with
  | nil o => exact absurd ht List.not_mem_nil
  | cons hlex _ ih =>
      rcases List.mem_cons.1 ht with rfl | ht
      · rw [hlex.start_offset]
        exact hlex
      · exact ih ht

theorem Path.head_start {o e : Nat} {ts : List Token} {t : Token}
    (h : Path rules source o ts e) (ht : ts.head? = some t) :
    t.start = positionAt source o := by
  cases h with
  | nil => cases ht
  | cons hlex _ =>
      cases ht
      obtain ⟨m, -, -, heq⟩ := hlex.bounds
      rw [heq]
      rfl

theorem Path.joined {o e : Nat} {ts : List Token}
    (h : Path rules source o ts e) :
    ts.IsChain fun t u => u.start = t.stop := by
  induction h with
  | nil o => exact .nil
  | @cons o e t ts hlex hts ih =>
      refine List.isChain_cons.2 ⟨fun u hu => ?_, ih⟩
      obtain ⟨m, -, -, heq⟩ := hlex.bounds
      rw [hts.head_start hu, heq]
      rfl

theorem Path.last_stop {o e : Nat} {ts : List Token} {t : Token}
    (h : Path rules source o ts e) (ht : ts.getLast? = some t) :
    t.stop.offset = e := by
  induction h with
  | nil o => cases ht
  | @cons o e u ts hlex hts ih =>
      cases hts with
      | nil =>
          cases ht
          rfl
      | cons hlex' hts' => exact ih (by simpa using ht)

theorem Path.eq_nil_iff {o e : Nat} {ts : List Token}
    (h : Path rules source o ts e) : ts = [] ↔ o = e := by
  cases h with
  | nil => simp
  | cons hlex hts =>
      obtain ⟨m, hm, -, heq⟩ := hlex.bounds
      have hle := hts.le
      rw [heq] at hle
      have hlt : o + m ≤ e := hle
      simp only [reduceCtorEq, false_iff]
      omega

/-- The tokens on a path from the start to the end cover the source. -/
theorem Path.tiling {ts : List Token}
    (h : Path rules source 0 ts source.length) : Tiling source ts where
  text_ne_nil t ht := by
    obtain ⟨m, hm, hle, heq⟩ := (h.exists_lexed ht).bounds
    have hlen := Text.length_slice hle
    rw [heq]
    intro hnil
    have hnil' : slice source t.start.offset (t.start.offset + m) = [] := hnil
    rw [hnil', List.length_nil] at hlen
    omega
  text_eq t ht := by
    obtain ⟨m, -, -, heq⟩ := (h.exists_lexed ht).bounds
    rw [heq]
    rfl
  start_eq t ht := by
    obtain ⟨m, -, -, heq⟩ := (h.exists_lexed ht).bounds
    rw [heq]
    rfl
  stop_eq t ht := by
    obtain ⟨m, -, -, heq⟩ := (h.exists_lexed ht).bounds
    rw [heq]
    rfl
  stop_le t ht := by
    obtain ⟨m, -, hle, heq⟩ := (h.exists_lexed ht).bounds
    rw [heq]
    exact hle
  first_start t ht := by
    rw [h.head_start ht, Text.positionAt_zero]
  joined := h.joined
  last_stop t ht := h.last_stop ht
  eq_nil_iff := by
    rw [h.eq_nil_iff, eq_comm, List.length_eq_zero_iff]

/-- A choice that cannot be made is the fault of a pattern. -/
theorem raises_of_choose {t : Text} {x : Crossing}
    (h : choose rules t = .crossing x) : ∃ r ∈ rules, r.Raises x := by
  unfold choose at h
  rcases hf : first? rules (Text.firstLine t) with y | (_ | ⟨k, rule, n⟩)
  · rw [hf] at h
    cases h
    obtain ⟨r, hr, hx⟩ := exists_of_go_eq_error hf
    exact ⟨r, hr, _, Text.lineFeed_not_mem_firstLine t, Or.inl hx⟩
  · rw [hf] at h
    cases h
  · rw [hf] at h
    obtain ⟨i, -, hfirst⟩ := go_eq_some_iff.1 hf
    cases n with
    | zero => cases h
    | succ n =>
        dsimp only at h
        split at h
        · next y he =>
          cases h
          refine ⟨rule, List.mem_of_getElem? hfirst.rule_eq, ?_⟩
          cases rule with
          | simple p label => cases he
          | delimited p closing label =>
              simp only [extent] at he
              rcases hc : closingExtent closing (Text.lines (t.drop (n + 1)))
                with y | k
              · rw [hc] at he
                cases he
                obtain ⟨line, hline, hx⟩ :=
                  exists_of_closingExtent_eq_error hc
                exact ⟨line, Text.lineFeed_not_mem_of_mem_lines hline,
                  Or.inr ⟨p, closing, label, rfl, hx⟩⟩
              · rw [hc] at he
                cases he
        · cases h

/-- A stalled scan has met a rule that takes no text, before the end of the
source. -/
theorem exists_isFirst_of_stall {stall : Stall}
    (h : tokenize rules source = .error (.stall stall)) :
    ∃ o rule, o < source.length ∧ stall.position = positionAt source o
      ∧ IsFirst rules (restAt source o) stall.rule rule 0 := by
  obtain ⟨ts, o, -, hs⟩ := tokenize_error_iff.1 h
  cases hs with
  | stall he hf => exact ⟨o, _, he, rfl, hf⟩

/-- A scan comes to its end if every match of a rule takes some text and
every pattern can answer. -/
theorem exists_tokenize
    (htake : ∀ r ∈ rules, ∀ line, '\n' ∉ line →
      r.opening.matchLength? line ≠ .ok (some 0))
    (hanswer : ∀ r ∈ rules, ∀ x, ¬ r.Raises x) (source : Text) :
    ∃ ts, tokenize rules source = .ok ts := by
  rcases h : tokenize rules source with halt | ts
  · exfalso
    obtain ⟨ts, e, -, hs⟩ := tokenize_error_iff.1 h
    cases hs with
    | stall he hf =>
        exact htake _ (List.mem_of_getElem? hf.rule_eq) _
          (Text.lineFeed_not_mem_firstLine _) hf.matches_here
    | crossing he hc =>
        obtain ⟨r, hr, hx⟩ := raises_of_choose hc
        exact hanswer r hr _ hx
  · exact ⟨ts, rfl⟩

end Scan

-- ========================================================= the result

/-- The tokens of a finished scan cover the source. A scan that does not
finish has stalled, unless a pattern could not answer; and the cursor is
never sent beyond the last line. -/
theorem tokenize_tiles (rules : List Rule) (source : Text) :
    (∀ ts, tokenize rules source = .ok ts → Tiling source ts)
      ∧ (∀ e, tokenize rules source = .error e →
          (∃ s, e = .stall s)
            ∨ ∃ x, e = .crossing x ∧ ∃ r ∈ rules, r.Raises x)
      ∧ (Walk.scan rules source (.start source)).2 ≠ some .outside := by
  refine ⟨fun ts h => (Scan.tokenize_ok_iff.1 h).tiling, fun e h => ?_,
    Walk.scan_ne_outside rules source⟩
  obtain ⟨ts, o, -, hs⟩ := Scan.tokenize_error_iff.1 h
  cases hs with
  | stall he hf => exact Or.inl ⟨_, rfl⟩
  | crossing he hc => exact Or.inr ⟨_, rfl, Scan.raises_of_choose hc⟩

/-- A comment over three lines, one of them empty. -/
theorem tokenize_tiles_comment :
    ∃ ts, tokenize Language.css.rules "/*\n\n*/x".toList = .ok ts
      ∧ Tiling "/*\n\n*/x".toList ts := by
  have h : tokenize Language.css.rules "/*\n\n*/x".toList
      = .ok [⟨some "comment", "/*\n\n*/".toList, ⟨0, 0, 0⟩, ⟨2, 2, 6⟩⟩,
        ⟨none, "x".toList, ⟨2, 2, 6⟩, ⟨2, 3, 7⟩⟩] := by
    decide +kernel
  exact ⟨_, h, (tokenize_tiles _ _).1 _ h⟩

end Highlight
