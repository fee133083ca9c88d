/-
The first rule that matches wins. Every token of a scan is either that of
the first rule whose opening matches the rest of the line at its start,
or a single character where no opening matches, and never both
(`tokenize_first_match`).

A scan stalls just where such tokens lead to an offset before the end at
which the first matching rule takes no text.
-/
import Highlight.Diagnostic
import Highlight.Proofs.Scan.Tiling

namespace Highlight

open Text (positionAt slice restAt)

namespace Scan

variable {rules : List Rule} {source : Text}

-- ========================================================== vocabulary

/-- How the text of a token goes with the match of its rule's opening. -/
def Rule.Fits (opening text : Text) : Rule → Prop
  | .simple _ _ => text = opening
  | .delimited _ _ _ => opening <+: text

/-- The token is that of the first rule that matches where it stands. -/
def IsMatched (rules : List Rule) (source : Text) (t : Token) : Prop :=
  ∃ k rule n, IsFirst rules (restAt source t.start.offset) k rule n
    ∧ 0 < n ∧ t.label = rule.label
    ∧ Rule.Fits ((restAt source t.start.offset).take n) t.text rule

/-- The token is a single character where no rule matches. -/
def IsPlain (rules : List Rule) (source : Text) (t : Token) : Prop :=
  Unmatched rules (restAt source t.start.offset) ∧ t.label = none
    ∧ ∃ c, source[t.start.offset]? = some c ∧ t.text = [c]
      ∧ (restAt source t.start.offset = [] → c = '\n')

-- ============================================================= one token

theorem isMatched_of_extends {o k n m : Nat} {rule : Rule}
    (h : IsFirst rules (restAt source o) k rule n) (hn : 0 < n)
    (hm : Extends source o rule n m) :
    IsMatched rules source (tokenAt source rule.label o (o + m)) := by
  have hle := Pattern.matchLength?_le h.matches_here
  refine ⟨k, rule, n, h, hn, rfl, ?_⟩
  show Rule.Fits ((restAt source o).take n) (slice source o (o + m)) rule
  rw [Text.take_restAt hle]
  cases hm with
  | simple => rfl
  | @delimited p closing label n m hc =>
      show slice source o (o + n) <+: slice source o (o + (n + m))
      rw [Text.slice_eq_take_drop, Text.slice_eq_take_drop]
      exact List.take_prefix_take_left (Nat.le_add_right n m)

theorem isPlain_of_unmatched {o : Nat}
    (h : Unmatched rules (restAt source o)) (ho : o < source.length) :
    IsPlain rules source (tokenAt source none o (o + 1)) := by
  refine ⟨h, rfl, source[o], List.getElem?_eq_getElem ho, ?_, ?_⟩
  · show slice source o (o + 1) = [source[o]]
    rw [Text.slice_eq_take_drop, List.drop_eq_getElem_cons ho]
    rfl
  · intro hrest
    by_contra hc
    have hhead : Text.firstLine (source.drop o)
        = source[o] :: Text.firstLine (source.drop (o + 1)) := by
      rw [List.drop_eq_getElem_cons ho]
      unfold Text.firstLine
      rw [List.takeWhile_cons_of_pos (by simpa using hc)]
    exact List.cons_ne_nil _ _ (hhead.symm.trans hrest)

/-- No place has a first rule and none. -/
theorem not_unmatched_of_isFirst {line : Text} {k n : Nat} {rule : Rule}
    (h : IsFirst rules line k rule n) : ¬ Unmatched rules line := by
  intro hu
  have hnone := hu rule (List.mem_of_getElem? h.rule_eq)
  rw [h.matches_here] at hnone
  cases hnone

/-- A token is of exactly one of the two kinds. -/
theorem Lexed.xor {o : Nat} {t : Token} (h : Lexed rules source o t) :
    Xor (IsMatched rules source t) (IsPlain rules source t) := by
  cases h with
  | matched h hn hm =>
      exact Or.inl ⟨isMatched_of_extends h hn hm,
        fun hp => not_unmatched_of_isFirst h hp.1⟩
  | unmatched h ho =>
      refine Or.inr ⟨isPlain_of_unmatched h ho, ?_⟩
      rintro ⟨k, rule, n, hf, -⟩
      exact not_unmatched_of_isFirst hf h

end Scan

-- ========================================================== the result

/-- Every token of a finished scan is that of the first rule that matches
where it stands, or a single character where none does. A scan stalls just
when such tokens, put together from the start of the source, lead to an
offset where the first matching rule takes no text; the rule and the
position are those of the stall, and its message names the rule. -/
theorem tokenize_first_match (rules : List Rule) (source : Text) :
    (∀ ts, tokenize rules source = .ok ts → ∀ t ∈ ts,
        Xor (Scan.IsMatched rules source t) (Scan.IsPlain rules source t))
      ∧ ∀ s, tokenize rules source = .error (.stall s) ↔
          ∃ ts o, Scan.Path rules source 0 ts o
            ∧ (∀ t ∈ ts, Xor (Scan.IsMatched rules source t)
                (Scan.IsPlain rules source t))
            ∧ o < source.length
            ∧ (∃ rule, Scan.IsFirst rules (restAt source o) s.rule rule 0)
            ∧ s.position = positionAt source o
            ∧ Diagnostic.stallMessage s
                = "rule " ++ toString s.rule ++ " matched empty text" := by
  refine ⟨fun ts h t ht => ?_, fun s => ⟨fun h => ?_, ?_⟩⟩
  · exact ((Scan.tokenize_ok_iff.1 h).exists_lexed ht).xor
  · obtain ⟨ts, o, hp, hs⟩ := Scan.tokenize_error_iff.1 h
    cases hs with
    | @stall k rule ho hf =>
        exact ⟨ts, o, hp, fun t ht => (hp.exists_lexed ht).xor, ho,
          ⟨rule, hf⟩, rfl, rfl⟩
  · rintro ⟨ts, o, hp, -, ho, ⟨rule, hf⟩, hpos, -⟩
    refine Scan.tokenize_error_iff.2 ⟨ts, o, hp, ?_⟩
    obtain ⟨k, p⟩ := s
    simp only at hf hpos
    subst hpos
    exact .stall ho hf

/-- Rules of each kind and a line feed that none of them takes. -/
theorem tokenize_first_match_css :
    ∃ ts, tokenize Language.css.rules "a:b\n/**/".toList = .ok ts
      ∧ ∀ t ∈ ts,
        Xor (Scan.IsMatched Language.css.rules "a:b\n/**/".toList t)
          (Scan.IsPlain Language.css.rules "a:b\n/**/".toList t) := by
  have h : tokenize Language.css.rules "a:b\n/**/".toList
      = .ok [⟨some "keyword", "a".toList, ⟨0, 0, 0⟩, ⟨0, 1, 1⟩⟩,
        ⟨some "value", ":b".toList, ⟨0, 1, 1⟩, ⟨0, 3, 3⟩⟩,
        ⟨none, "\n".toList, ⟨0, 3, 3⟩, ⟨1, 0, 4⟩⟩,
        ⟨some "comment", "/**/".toList, ⟨1, 0, 4⟩, ⟨1, 4, 8⟩⟩] := by
    decide +kernel
  exact ⟨_, h, (tokenize_first_match _ _).1 _ h⟩

end Highlight
