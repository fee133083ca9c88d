/-
What an editor is told of a text whose lines end with a carriage return and
a line feed, beside what it is told of the same text with line feeds only.

In the known languages the tokens with a label are found again, in their
places (`Scan.Resembles`). But the scan takes the carriage return for a
character of its line: a comment up to the end of the line is longer by
it, and so is every line but the last of a token that goes over lines. The
numbers agree just when there is no such token (`ofTokens_withReturns`).

The numbers disagree by their lengths: an entry for every piece, and all
entries together are as long as the tokens with a type are without their
line feeds (`sum_length_entries`).
-/
import Highlight.Proofs.Escape.Builtin
import Highlight.Proofs.Language.Builtin
import Highlight.Proofs.Return.Scan
import Highlight.Proofs.Semantic.Stretch

namespace Highlight

open List (Forall₂)
open Scan (IsFirst Lexed Resembles Tolerant labelled)
open Text (column16 lineUnits units16 withReturns)

-- =============================================================== checks

/-- The words that end what is delimited, those of markup as well. -/
def endingWords : List Text := "--&gt;".toList :: closingWords

/-- The pattern runs to the end of a line, or of blanks. -/
def Pattern.isAbsorbing (p : Pattern) : Bool :=
  p.node = .anchored .blankRun
    || commentWords.any fun w => p.node = .anchored (.comment w)

/-- A carriage return at the end of a line is no matter to the rule, or it
becomes part of plain text or of a comment. -/
def Rule.isTolerant : Rule → Bool
  | .simple p label =>
    p.isSteady || p.isAbsorbing && (label = none || label = some "comment")
  | .delimited p closing _ =>
    p.isSteady && endingWords.any fun w => closing.node = .word w

namespace Scan

/-- The first rule takes a carriage return and gives no label. -/
def takesReturn (rules : List Rule) : Bool :=
  match first? rules ['\r'] with
  | .ok (some (_, .simple _ none, n)) => n == 1
  | _ => false

def isTolerant (rules : List Rule) : Bool :=
  rules.all (·.isTolerant) && rules.all (·.opening.isAdvancing)
    && takesReturn rules

end Scan

/-- Every label has a type. -/
def Semantic.isTyped (rules : List Rule) : Bool :=
  rules.all fun r => r.label.isNone || (typeOf? r.label).isSome

-- ============================================================ soundness

/-- The delimiters that come along have no carriage return. -/
theorem return_not_mem_words :
    ∀ w ∈ commentWords ++ endingWords, w ≠ [] ∧ '\r' ∉ w := by
  decide

/-- A pattern that passes the check takes a carriage return along with the
line. -/
theorem Pattern.absorbs_of_isAbsorbing {p : Pattern} (h : p.isAbsorbing) :
    p.Absorbs := by
  unfold isAbsorbing at h
  simp only [Bool.or_eq_true, decide_eq_true_eq, List.any_eq_true] at h
  rcases h with h | ⟨w, hw, h⟩
  · exact absorbs_blanks h
  · have hclean := return_not_mem_words w (List.mem_append_left _ hw)
    exact absorbs_comment hclean.2 h

/-- So the check on rules is sound. -/
theorem Rule.tolerant_of_isTolerant {r : Rule} (h : r.isTolerant) :
    r.Tolerant := by
  cases r with
  | simple p label =>
      unfold isTolerant at h
      simp only [Bool.or_eq_true, Bool.and_eq_true, decide_eq_true_eq] at h
      exact h.imp Pattern.steady_of_isSteady
        (And.imp_left Pattern.absorbs_of_isAbsorbing)
  | delimited p closing label =>
      obtain ⟨hp, hc⟩ := Bool.and_eq_true _ _ ▸ h
      obtain ⟨w, hw, hc⟩ := List.any_eq_true.1 hc
      obtain ⟨hne, hclean⟩ :=
        return_not_mem_words w (List.mem_append_right _ hw)
      exact ⟨Pattern.steady_of_isSteady hp,
        Pattern.steadySearch_of_word hne hclean (of_decide_eq_true hc)⟩

namespace Scan

variable {rules : List Rule}

/-- A carriage return alone is taken as plain text. -/
theorem exists_isFirst_of_takesReturn (h : takesReturn rules) :
    ∃ k p, IsFirst rules ['\r'] k (.simple p none) 1 := by
  unfold takesReturn at h
  split at h
  · next k p n hf =>
    obtain ⟨i, -, hfirst⟩ := go_eq_some_iff.1 hf
    rw [beq_iff_eq] at h
    exact ⟨i, p, h ▸ hfirst⟩
  · cases h

/-- So the check on lists of rules is sound. -/
theorem tolerant_of_isTolerant (h : isTolerant rules) : Tolerant rules := by
  unfold isTolerant at h
  simp only [Bool.and_eq_true, List.all_eq_true] at h
  obtain ⟨⟨heach, hadvances⟩, hreturn⟩ := h
  exact ⟨fun r hr => Rule.tolerant_of_isTolerant (heach r hr),
    fun r hr => Pattern.advances_of_isAdvancing (hadvances r hr),
    exists_isFirst_of_takesReturn hreturn⟩

end Scan

namespace Semantic

variable {rules : List Rule} {source : Text}

/-- A label is that of a rule. -/
theorem typed_of_lexed (hrules : isTyped rules) {o : Nat} {t : Token}
    (h : Lexed rules source o t) (ht : t.label.isSome) :
    (typeOf? t.label).isSome := by
  cases h with
  | unmatched => cases ht
  | @matched k n m rule h =>
      have hrule := List.all_eq_true.1 hrules rule
        (List.mem_of_getElem? h.rule_eq)
      rcases Bool.or_eq_true _ _ ▸ hrule with hnone | hsome
      · rw [Option.isNone_iff_eq_none] at hnone
        change rule.label.isSome at ht
        rw [hnone] at ht
        cases ht
      · exact hsome

-- ============================================================== lengths

/-- What an editor sees of a mark, in 16-bit units. -/
def Mark.units (m : Mark) : Nat :=
  if (typeOf? m.label).isSome then lineUnits m.text else 0

/-- The entries of a token are as long as its pieces. -/
theorem sum_length_pieces {lines ps : List Text} {type : Nat} {row col : Int}
    {es : List Entry} (h : pieces lines type row col ps = some es) :
    (es.map Entry.length).sum = (ps.map units16).sum := by
  induction ps generalizing row col es with
  | nil =>
      cases h
      rfl
  | cons p ps ih =>
      cases p with
      | nil =>
          rw [List.map_cons, List.sum_cons, ih h]
          exact (Nat.zero_add _).symm
      | cons c p =>
          obtain ⟨line, -, h⟩ := Option.bind_eq_some_iff.1 h
          obtain ⟨rest, hrest, h⟩ := Option.bind_eq_some_iff.1 h
          cases h
          rw [List.map_cons, List.sum_cons, List.map_cons, List.sum_cons,
            ih hrest]

/-- All entries together are as long as the marks with a type. -/
theorem sum_length_entries {lines : List Text} {ms : List Mark}
    {es : List Entry} (h : entries lines ms = some es) :
    (es.map Entry.length).sum = (ms.map Mark.units).sum := by
  induction ms generalizing es with
  | nil =>
      cases h
      rfl
  | cons m ms ih =>
      have hsplit : ∃ here rest, (here.map Entry.length).sum = m.units
          ∧ entries lines ms = some rest ∧ es = here ++ rest := by
        unfold entries at h
        unfold Mark.units
        cases ht : typeOf? m.label with
        | none =>
            rw [ht] at h
            obtain ⟨here, hhere, h⟩ := Option.bind_eq_some_iff.1 h
            obtain ⟨rest, hrest, h⟩ := Option.bind_eq_some_iff.1 h
            cases hhere
            cases h
            exact ⟨[], rest, rfl, hrest, rfl⟩
        | some type =>
            rw [ht] at h
            obtain ⟨here, hhere, h⟩ := Option.bind_eq_some_iff.1 h
            obtain ⟨rest, hrest, h⟩ := Option.bind_eq_some_iff.1 h
            cases h
            have hlength := sum_length_pieces hhere
            rw [Text.sum_units16_lines] at hlength
            exact ⟨here, rest, hlength, hrest, rfl⟩
      obtain ⟨here, rest, hhere, hrest, rfl⟩ := hsplit
      rw [List.map_append, List.sum_append_nat, hhere, ih hrest,
        List.map_cons, List.sum_cons]

/-- A token without a label adds nothing. -/
theorem sum_units_labelled (ts : List Token) :
    ((ts.map Mark.ofToken).map Mark.units).sum
      = (((labelled ts).map Mark.ofToken).map Mark.units).sum := by
  induction ts with
  | nil => rfl
  | cons t ts ih =>
      unfold labelled at *
      rw [List.map_cons, List.map_cons, List.sum_cons, ih]
      cases ht : t.label with
      | none =>
          have hzero : (Mark.ofToken t).units = 0 := by
            show (if (typeOf? t.label).isSome then _ else 0) = 0
            rw [ht]
            rfl
          rw [hzero, Nat.zero_add, List.filter_cons_of_neg (by simp [ht])]
      | some l =>
          rw [List.filter_cons_of_pos (by simp [ht]), List.map_cons,
            List.map_cons, List.sum_cons]

/-- A token that is found again has become no shorter, and longer if it
holds a carriage return now. -/
theorem lineUnits_of_resembles {t u : Token} (h : Resembles source t u)
    (ht : '\r' ∉ t.text) :
    lineUnits t.text ≤ lineUnits u.text
      ∧ (lineUnits u.text ≤ lineUnits t.text → '\r' ∉ u.text) := by
  have hgrown := Text.lineUnits_withReturns t.text
  rcases h.text with htext | ⟨-, -, htext⟩
  · rw [htext, Text.return_mem_withReturns ht]
    refine ⟨by omega, fun hle hfeed => ?_⟩
    have hpos : 0 < Text.lineFeeds t.text := List.count_pos_iff.2 hfeed
    omega
  · have hone : lineUnits ['\r'] = 1 := rfl
    rw [htext, Text.lineUnits_append, hone]
    exact ⟨by omega, fun hle => by omega⟩

/-- Tokens that are found again with their length hold no carriage
return. -/
theorem not_mem_of_sum_units {ts us : List Token}
    (h : Forall₂ (Resembles source) ts us)
    (hclean : ∀ t ∈ ts, '\r' ∉ t.text)
    (htyped : ∀ t ∈ ts, (typeOf? t.label).isSome) :
    ((ts.map Mark.ofToken).map Mark.units).sum
        ≤ ((us.map Mark.ofToken).map Mark.units).sum
      ∧ (((us.map Mark.ofToken).map Mark.units).sum
        ≤ ((ts.map Mark.ofToken).map Mark.units).sum →
          ∀ u ∈ us, '\r' ∉ u.text) := by
  induction h with
  | nil => exact ⟨Nat.le_refl _, fun _ u hu => absurd hu List.not_mem_nil⟩
  | @cons t u ts us htu _ ih =>
      rw [List.forall_mem_cons] at hclean htyped
      obtain ⟨hle, hmore⟩ := ih hclean.2 htyped.2
      obtain ⟨hone, hone'⟩ := lineUnits_of_resembles htu hclean.1
      have ht : (Mark.ofToken t).units = lineUnits t.text := if_pos htyped.1
      have hu : (Mark.ofToken u).units = lineUnits u.text := by
        refine if_pos ?_
        show (typeOf? u.label).isSome = true
        rw [htu.label]
        exact htyped.1
      simp only [List.map_cons, List.sum_cons, ht, hu]
      refine ⟨by omega, fun hsum => List.forall_mem_cons.2 ⟨?_, ?_⟩⟩
      · exact hone' (by omega)
      · exact hmore (by omega)

-- ============================================================== entries

/-- The entries of a token. -/
def tokenEntries (source : Text) (t : Token) : List Entry :=
  (tokenStretches t).map (·.entry source)

/-- A token within a line has one entry. -/
theorem tokenEntries_of_not_mem {o type : Nat} {t : Token}
    (h : Lexed rules source o t) (hline : '\n' ∉ t.text)
    (ht : typeOf? t.label = some type) :
    tokenEntries source t
      = [⟨t.start.row, column16 source t.start.offset, units16 t.text,
          type⟩] := by
  obtain ⟨p, more, hlines, hlies, hstop⟩ := lies_of_lexed h
  obtain ⟨m, hm, -, heq⟩ := h.bounds
  have hsingle := hlines
  rw [Text.lines_of_not_mem hline] at hsingle
  obtain ⟨rfl, rfl⟩ := List.cons.inj hsingle
  have hslice := slice_of_lies hlies
  have hstart : t.start = Text.positionAt source o := congrArg Token.start heq
  unfold tokenEntries
  rw [tokenStretches_eq h hlines ht]
  cases htext : t.text with
  | nil =>
      have hend : t.stop.offset = o + m := by
        rw [heq]
        rfl
      rw [htext, Text.below_nil, List.append_nil, List.length_nil, hend]
        at hstop
      omega
  | cons c r =>
      rw [htext, List.length_cons] at hslice
      show [Stretch.entry source ⟨o, o + (r.length + 1), type⟩] = _
      unfold Stretch.entry
      rw [hslice, hstart]
      rfl

/-- A token that is found again without a carriage return keeps its
entry. -/
theorem tokenEntries_of_resembles {t u : Token}
    (htyped : (typeOf? t.label).isSome)
    (ht : Lexed rules source t.start.offset t)
    (hu : Lexed rules (withReturns source) u.start.offset u)
    (h : Resembles source t u) (hclean : '\r' ∉ t.text)
    (hclean' : '\r' ∉ u.text) :
    tokenEntries (withReturns source) u = tokenEntries source t := by
  obtain ⟨type, htype⟩ := Option.isSome_iff_exists.1 htyped
  have htext : u.text = withReturns t.text := by
    refine h.text.resolve_right fun ⟨_, _, htext⟩ => hclean' ?_
    rw [htext]
    exact List.mem_append_right _ List.mem_cons_self
  have hline : '\n' ∉ t.text := by
    rw [← Text.return_mem_withReturns hclean, ← htext]
    exact hclean'
  rw [Text.withReturns_of_not_mem hline] at htext
  have hline' : '\n' ∉ u.text := htext ▸ hline
  rw [tokenEntries_of_not_mem ht hline htype,
    tokenEntries_of_not_mem hu hline' (h.label ▸ htype), h.row, h.column,
    htext]

/-- The entries of the tokens on a path are those of the tokens with a
label. -/
theorem entries_labelled {o e : Nat} {ts : List Token}
    (h : Scan.Path rules source o ts e) :
    entries (Text.lines source) (ts.map Mark.ofToken)
      = some ((labelled ts).flatMap (tokenEntries source)) := by
  rw [entries_eq h, List.map_flatMap]
  congr 1
  refine (Regex.flatMap_filter_of_nil fun t _ ht => ?_).symm
  have hnone : t.label = none := by simpa using ht
  show (tokenStretches t).map _ = []
  unfold tokenStretches
  rw [hnone]
  rfl

/-- Lists that correspond give the same if their members do. -/
theorem flatMap_of_forall₂ {α β γ : Type} {R : α → β → Prop}
    {f : α → List γ} {g : β → List γ} {l : List α} {l' : List β}
    (h : Forall₂ R l l')
    (hfg : ∀ a ∈ l, ∀ b ∈ l', R a b → g b = f a) :
    l'.flatMap g = l.flatMap f := by
  induction h with
  | nil => rfl
  | @cons a b l l' hab _ ih =>
      rw [List.flatMap_cons, List.flatMap_cons,
        hfg a List.mem_cons_self b List.mem_cons_self hab,
        ih fun a ha b hb => hfg a (List.mem_cons_of_mem _ ha) b
          (List.mem_cons_of_mem _ hb)]

-- =========================================================== encodings

/-- Two scans whose tokens correspond have the same numbers just when no
token with a label holds a carriage return. -/
theorem ofTokens_eq_iff {ts us : List Token} {e e' : Nat}
    (hrules : isTyped rules) (hsource : '\r' ∉ source)
    (hts : Scan.Path rules source 0 ts e)
    (hus : Scan.Path rules (withReturns source) 0 us e')
    (h : Forall₂ (Resembles source) (labelled ts) (labelled us)) :
    ofTokens us (withReturns source) = ofTokens ts source
      ↔ ∀ u ∈ us, u.label.isSome → '\r' ∉ u.text := by
  have hlexed : ∀ t ∈ labelled ts, Lexed rules source t.start.offset t :=
    fun t ht => hts.exists_lexed (List.mem_of_mem_filter ht)
  have hlexed' : ∀ u ∈ labelled us,
      Lexed rules (withReturns source) u.start.offset u :=
    fun u hu => hus.exists_lexed (List.mem_of_mem_filter hu)
  have htyped : ∀ t ∈ labelled ts, (typeOf? t.label).isSome :=
    fun t ht => typed_of_lexed hrules (hlexed t ht) (List.mem_filter.1 ht).2
  have hclean : ∀ t ∈ labelled ts, '\r' ∉ t.text := by
    intro t ht hr
    obtain ⟨m, -, -, heq⟩ := (hlexed t ht).bounds
    rw [heq] at hr
    exact hsource (List.mem_of_mem_take (List.mem_of_mem_drop hr))
  have hentries := entries_labelled hts
  have hentries' := entries_labelled hus
  unfold ofTokens encode
  rw [hentries, hentries', Option.map_some, Option.map_some]
  constructor
  · intro heq u hu hlabel
    -- numbers that agree tell the same lengths
    have hsame := congrArg (decode 0 (0 : Nat)) (Option.some.inj heq)
    rw [decode_deltas, decode_deltas] at hsame
    have hsum := sum_length_entries hentries
    have hsum' := sum_length_entries hentries'
    rw [sum_units_labelled] at hsum hsum'
    rw [hsame, hsum] at hsum'
    exact (not_mem_of_sum_units h hclean htyped).2 (Nat.le_of_eq hsum'.symm)
      u (List.mem_filter.2 ⟨hu, hlabel⟩)
  · intro hfree
    congr 2
    refine flatMap_of_forall₂ h fun t ht u hu htu => ?_
    obtain ⟨hu', hlabel⟩ := List.mem_filter.1 hu
    exact tokenEntries_of_resembles (htyped t ht) (hlexed t ht)
      (hlexed' u hu) htu (hclean t ht) (hfree u hu' hlabel)

-- ========================================================== the result

/-- The languages that come along pass the check. -/
theorem isTolerant_builtin : ∀ name ∈ Entries.keys Language.builtins,
    (Registry.default.get? name).any (fun rules =>
      Scan.isTolerant rules && isTyped rules) = true := by
  decide +kernel

/-- In the known languages a text without carriage returns and the same text
with one in front of every line feed have the same tokens with a label, in
the same places; only a comment may take the carriage return at the end of
its line. The numbers for an editor are the same for both texts just when no
token with a label holds a carriage return. -/
theorem ofTokens_withReturns : ∀ name ∈ Entries.keys Language.builtins,
    ∃ rules, Registry.default.get? name = some rules
      ∧ ∀ source, '\r' ∉ source → ∃ ts us,
        tokenize rules source = .ok ts
          ∧ tokenize rules (withReturns source) = .ok us
          ∧ Forall₂ (Resembles source) (labelled ts) (labelled us)
          ∧ (ofTokens us (withReturns source) = ofTokens ts source
            ↔ ∀ u ∈ us, u.label.isSome → '\r' ∉ u.text) := by
  intro name hname
  have h := isTolerant_builtin name hname
  cases hrules : Registry.default.get? name with
  | none =>
      rw [hrules] at h
      cases h
  | some rules =>
      rw [hrules] at h
      obtain ⟨htolerant, htyped⟩ := Bool.and_eq_true _ _ ▸ h
      refine ⟨rules, rfl, fun source hsource => ?_⟩
      obtain ⟨ts, us, hts, hus, hrel⟩ :=
        Scan.tokenize_of_tolerant (Scan.tolerant_of_isTolerant htolerant)
          source
      exact ⟨ts, us, hts, hus, hrel,
        ofTokens_eq_iff htyped hsource (Scan.tokenize_ok_iff.1 hts)
          (Scan.tokenize_ok_iff.1 hus) hrel⟩

/-- A keyword, a number and a comment that takes the carriage return. -/
theorem ofTokens_withReturns_python :
    ∃ rules, Registry.default.get? "python" = some rules
      ∧ '\r' ∉ "return 1 # a\nx".toList ∧ ∃ ts us,
        tokenize rules "return 1 # a\nx".toList = .ok ts
          ∧ tokenize rules (withReturns "return 1 # a\nx".toList) = .ok us
          ∧ Forall₂ (Resembles "return 1 # a\nx".toList)
            (labelled ts) (labelled us)
          ∧ (ofTokens us (withReturns "return 1 # a\nx".toList)
              = ofTokens ts "return 1 # a\nx".toList
            ↔ ∀ u ∈ us, u.label.isSome → '\r' ∉ u.text) := by
  obtain ⟨rules, hrules, h⟩ := ofTokens_withReturns "python" (by decide)
  exact ⟨rules, hrules, by decide, h "return 1 # a\nx".toList (by decide)⟩

/-- A comment takes the carriage return at the end of its line, and its
entry is longer by it. -/
theorem ofTokens_longer_comment :
    withReturns "# a\nx".toList = "# a\r\nx".toList
      ∧ (Registry.default.get? "python").map (fun rules =>
          ["# a\nx".toList, "# a\r\nx".toList].map fun source =>
            (tokenize rules source).map (ofTokens · source))
        = some [.ok (some [0, 0, 3, 2, 0]), .ok (some [0, 0, 4, 2, 0])] := by
  have hspec : Language.builtins.lookup "python" = some Language.python := rfl
  obtain ⟨rules, hrules, hcompile⟩ :=
    Registry.exists_of_build Registry.build_default hspec
  have hnumbers : (Language.python.compile "python").toOption.map
      (fun rules => ["# a\nx".toList, "# a\r\nx".toList].map fun source =>
        (tokenize rules source).map (ofTokens · source))
      = some [.ok (some [0, 0, 3, 2, 0]), .ok (some [0, 0, 4, 2, 0])] := by
    decide +kernel
  rw [hcompile] at hnumbers
  rw [hrules]
  exact ⟨by decide, hnumbers⟩

end Semantic

end Highlight
