/-
Escaping first or not gives the same highlighting in the known languages
that are not markup: a text and its escaped form have the same tokens with
a label, one by one (`tokenize_escape`).

The rules of these languages are of four kinds: patterns that keep away
from special characters, quoted texts, texts between slashes, and
comments. That each rule is of one of them is checked on the compiled
rules (`isEscapable_builtin`).
-/
import Highlight.Proofs.Escape.Scan
import Highlight.Registry

namespace Highlight

open Html (entityNames)
open Regex (Node)

-- =============================================================== checks

/-- The words that comments begin with. -/
def commentWords : List Text :=
  ["//".toList, "#".toList, "--".toList]

/-- The words that end what is delimited. -/
def closingWords : List Text :=
  ["*/".toList, "\"\"\"".toList, "]]".toList, "]==]".toList]

/-- The pattern is of one of the kinds that are known to be escapable. -/
def Pattern.isEscapable (p : Pattern) : Bool :=
  p.isShy || p.node = .anchored .strings || p.node = .anchored .slashed
    || commentWords.any fun w => p.node = .anchored (.comment w)

/-- The patterns of the rule pass the check. -/
def Rule.isEscapable : Rule → Bool
  | .simple p _ => p.isEscapable
  | .delimited p closing _ =>
    p.isEscapable && closingWords.any fun w => closing.node = .word w

namespace Scan

/-- The first rule takes a name of an entity and gives no label. -/
def takesName (rules : List Rule) (w : Text) : Bool :=
  match first? rules (w ++ [';']) with
  | .ok (some (_, .simple _ none, n)) => n == w.length
  | _ => false

def isEscapable (rules : List Rule) : Bool :=
  rules.all (·.isEscapable) && entityNames.all (takesName rules)
    && first? rules [';'] matches .ok none

end Scan

-- ============================================================ soundness

/-- The delimiters that come along have no character that escaping touches.
-/
theorem isPlain_of_mem_words : ∀ w ∈ commentWords ++ closingWords,
    w ≠ [] ∧ ∀ c ∈ w, Html.IsPlain c := by
  have hall : ∀ w ∈ commentWords ++ closingWords,
      w ≠ [] ∧ w.all fun c => decide (Html.IsPlain c) := by
    decide
  simpa only [List.all_eq_true, decide_eq_true_eq] using hall

/-- A pattern that passes the check cannot tell a text from its escaped
form. -/
theorem Pattern.escapable_of_isEscapable {p : Pattern} (h : p.isEscapable) :
    p.Escapable := by
  unfold isEscapable at h
  simp only [Bool.or_eq_true, decide_eq_true_eq, List.any_eq_true] at h
  rcases h with ((h | h) | h) | ⟨w, hw, h⟩
  · exact escapable_of_isShy h
  · exact escapable_strings h
  · exact escapable_slashed h
  · obtain ⟨hne, hplain⟩ :=
      isPlain_of_mem_words w (List.mem_append_left _ hw)
    exact escapable_comment hne hplain h

/-- A search for a word that shares nothing with entities ends at the same
place of both texts. -/
theorem Pattern.searchEscapable_of_word {p : Pattern} {w : Text}
    (hne : w ≠ []) (hw : ∀ c ∈ w, Html.IsPlain c) (hp : p.node = .word w) :
    p.SearchEscapable := by
  intro t _
  refine ⟨_, searchEnd?_eq_of_word hne hp t, ?_⟩
  rw [searchEnd?_eq_of_word hne hp, Html.wordEnd?_escape hne hw]

/-- So the check on rules is sound. -/
theorem Rule.escapable_of_isEscapable {r : Rule} (h : r.isEscapable) :
    r.Escapable := by
  cases r with
  | simple p label => exact Pattern.escapable_of_isEscapable h
  | delimited p closing label =>
      obtain ⟨hp, hc⟩ := Bool.and_eq_true _ _ ▸ h
      obtain ⟨w, hw, hc⟩ := List.any_eq_true.1 hc
      obtain ⟨hne, hplain⟩ :=
        isPlain_of_mem_words w (List.mem_append_right _ hw)
      exact ⟨Pattern.escapable_of_isEscapable hp,
        Pattern.searchEscapable_of_word hne hplain (of_decide_eq_true hc)⟩

namespace Scan

/-- The name of an entity is taken as plain text, up to its semicolon. -/
theorem exists_isFirst_of_takesName {rules : List Rule} {w : Text}
    (h : takesName rules w) :
    ∃ k p, IsFirst rules (w ++ [';']) k (.simple p none) w.length := by
  unfold takesName at h
  split at h
  · next k p n hf =>
    obtain ⟨i, -, hfirst⟩ := go_eq_some_iff.1 hf
    rw [beq_iff_eq] at h
    exact ⟨i, p, h ▸ hfirst⟩
  · cases h

/-- So the check on lists of rules is sound. -/
theorem escapable_of_isEscapable {rules : List Rule}
    (h : isEscapable rules) : Escapable rules := by
  unfold isEscapable at h
  simp only [Bool.and_eq_true] at h
  obtain ⟨⟨heach, hnames⟩, hsemi⟩ := h
  refine ⟨fun r hr => ?_, fun w hw => ?_, ?_⟩
  · exact Rule.escapable_of_isEscapable (List.all_eq_true.1 heach r hr)
  · exact exists_isFirst_of_takesName (List.all_eq_true.1 hnames w hw)
  · split at hsemi
    · next hf => exact go_eq_none_iff.1 hf
    · cases hsemi

/-- Rules that treat a text like its escaped form finish both scans, with
the same tokens with a label. -/
theorem tokenize_escape_of_escapable {rules : List Rule}
    (h : Escapable rules) (source : Text) :
    ∃ ts us, tokenize rules source = .ok ts
      ∧ tokenize rules (Html.escape source) = .ok us
      ∧ classified us = (classified ts).map escapeText := by
  obtain ⟨ts, hts⟩ := exists_tokenize_of_escapable h source
  obtain ⟨us, hus, hclass⟩ := exists_path_of_path h (tokenize_ok_iff.1 hts)
  have hzero : escapedOffset source 0 = 0 := rfl
  rw [hzero, escapedOffset_length] at hus
  exact ⟨ts, us, hts, tokenize_ok_iff.2 hus, hclass⟩

end Scan

-- ========================================================== the result

/-- The known languages that are not markup. -/
def Language.plain : List String := ["javascript", "python", "lua", "css"]

/-- The plain languages that come along pass the check. -/
theorem isEscapable_builtin : ∀ name ∈ Language.plain,
    (Registry.default.get? name).any Scan.isEscapable = true := by
  decide +kernel

/-- Escaping first or not gives the same highlighting: in the known
languages that are not markup both scans finish, and the tokens with a
label correspond, with the same labels and rows and with the text of one
scan escaped in the other. -/
theorem tokenize_escape : ∀ name ∈ Language.plain,
    ∃ rules, Registry.default.get? name = some rules
      ∧ ∀ source, ∃ ts us, tokenize rules source = .ok ts
        ∧ tokenize rules (Html.escape source) = .ok us
        ∧ Scan.classified us
          = (Scan.classified ts).map Scan.escapeText := by
  intro name hname
  have h := isEscapable_builtin name hname
  cases hrules : Registry.default.get? name with
  | none =>
      rw [hrules] at h
      cases h
  | some rules =>
      rw [hrules] at h
      exact ⟨rules, rfl, fun source => Scan.tokenize_escape_of_escapable
        (Scan.escapable_of_isEscapable h) source⟩

theorem tokenize_escape_css :
    ∃ rules, Registry.default.get? "css" = some rules
      ∧ ∀ source, ∃ ts us, tokenize rules source = .ok ts
        ∧ tokenize rules (Html.escape source) = .ok us
        ∧ Scan.classified us
          = (Scan.classified ts).map Scan.escapeText :=
  tokenize_escape "css" (by decide)

end Highlight
