/-
Scanning: a text is cut into tokens from left to right by an ordered list
of rules.

At each place the rules are tried on the rest of the line, and the first
one whose opening matches makes the token. Where no rule applies, one
character makes a token without a label; line feeds, which no rest of a
line holds, are such characters.

Two things halt a scan. A rule that matches without taking any text
stalls it, and a match whose groups are crossed cannot be used.

# What rules see

A pattern sees the rest of the line and nothing before it. The closing of
a delimited rule is searched in what the opening left of the line, then
in one line after the other. If it is found nowhere, the token takes all
the text there is.

Here a scan is a recursion on the text that is left. `Tokenize` walks a
cursor through the lines of the text and does the same.
-/
import Highlight.Rule

namespace Highlight

open Regex (Crossing)

/-- A scan that cannot go on: a rule took no text at a place. -/
structure Stall where
  /-- The number of the rule in the list. -/
  rule : Nat
  position : Position
deriving DecidableEq, Repr

/-- Why a scan comes to no end. -/
inductive Halt where
  | stall (s : Stall)
  | crossing (c : Crossing)
deriving DecidableEq, Repr

namespace Scan

/-- The first rule whose opening matches at the start of a line's rest,
with its number and the length of the match. -/
def first? (rules : List Rule) (line : Text) :
    Except Crossing (Option (Nat × Rule × Nat)) :=
  go 0 rules
where
  go (index : Nat) : List Rule →
      Except Crossing (Option (Nat × Rule × Nat))
    | [] => .ok none
    | rule :: more =>
      match rule.opening.matchLength? line with
      | .error c => .error c
      | .ok (some n) => .ok (some (index, rule, n))
      | .ok none => go (index + 1) more

theorem matchLength?_of_go {line : Text} {rules : List Rule}
    {index i n : Nat} {rule : Rule}
    (h : first?.go line index rules = .ok (some (i, rule, n))) :
    rule.opening.matchLength? line = .ok (some n) := by
  induction rules generalizing index with
  | nil => cases h
  | cons r more ih =>
    unfold first?.go at h
    split at h
    · cases h
    · next hm =>
      cases h
      exact hm
    · exact ih h

/-- How much text runs up to the end of a closing, line by line; all of
it if there is none. -/
def closingExtent (closing : Pattern) : List Text → Except Crossing Nat
  | [] => .ok 0
  | [line] => return (← closing.searchEnd? line).getD line.length
  | line :: more => do
    match ← closing.searchEnd? line with
    | some n => return n
    | none => return line.length + 1 + (← closingExtent closing more)

theorem closingExtent_cons (closing : Pattern) (line : Text)
    (more : List Text) :
    closingExtent closing (line :: more) =
      match closing.searchEnd? line with
      | .error c => .error c
      | .ok (some n) => .ok n
      | .ok none =>
        if more = [] then .ok line.length
        else (closingExtent closing more).map (line.length + 1 + ·) := by
  cases more with
  | nil =>
    simp only [closingExtent, ↓reduceIte]
    rcases closing.searchEnd? line with c | (_ | n) <;> rfl
  | cons l ls =>
    simp only [closingExtent, reduceCtorEq, ↓reduceIte]
    rcases closing.searchEnd? line with c | (_ | n)
    · rfl
    · rcases closingExtent closing (l :: ls) with c | k <;> rfl
    · rfl

/-- The length of the token that a rule makes, given the length of the
match of its opening. -/
def extent (rule : Rule) (n : Nat) (t : Text) : Except Crossing Nat :=
  match rule with
  | .simple _ _ => .ok n
  | .delimited _ closing _ =>
    (n + ·) <$> closingExtent closing (Text.lines (t.drop n))

/-- What happens at one place of a text. -/
inductive Choice where
  /-- A token of so many characters. -/
  | take (label : Option String) (length : Nat)
  /-- The rule of this number takes no text. -/
  | stall (rule : Nat)
  | crossing (c : Crossing)
deriving DecidableEq, Repr

/-- What the rules do with a text that is not empty. -/
def choose (rules : List Rule) (t : Text) : Choice :=
  match first? rules (Text.firstLine t) with
  | .error c => .crossing c
  | .ok none => .take none 1
  | .ok (some (index, _, 0)) => .stall index
  | .ok (some (_, rule, n + 1)) =>
    match extent rule (n + 1) t with
    | .error c => .crossing c
    | .ok length => .take rule.label length

theorem le_of_extent {rule : Rule} {n m : Nat} {t : Text}
    (h : extent rule n t = .ok m) : n ≤ m := by
  unfold extent at h
  split at h
  · cases h
    exact Nat.le_refl _
  · next closing _ =>
    cases he : closingExtent closing (Text.lines (t.drop n)) with
    | error c => rw [he] at h; cases h
    | ok k => rw [he] at h; cases h; exact Nat.le_add_right _ _

theorem length_pos_of_choose {rules : List Rule} {t : Text}
    {label : Option String} {n : Nat}
    (h : choose rules t = .take label n) : 0 < n := by
  unfold choose at h
  split at h
  · cases h
  · cases h
    exact Nat.one_pos
  · cases h
  · split at h
    · cases h
    · next he =>
      cases h
      exact Nat.lt_of_lt_of_le (Nat.succ_pos _) (le_of_extent he)

/-- Scans a text that begins at the given position: the tokens, and what
halted the scan before the end of the text. -/
def run (rules : List Rule) (p : Position) (t : Text) :
    List Token × Option Halt :=
  if ht : t = [] then ([], none)
  else
    match h : choose rules t with
    | .stall rule => ([], some (.stall ⟨rule, p⟩))
    | .crossing c => ([], some (.crossing c))
    | .take label n =>
      have : t.length - n < t.length :=
        Nat.sub_lt (List.length_pos_iff.2 ht) (length_pos_of_choose h)
      let text := t.take n
      let q := p.after text
      let (tokens, halt) := run rules q (t.drop n)
      (⟨label, text, p, q⟩ :: tokens, halt)
termination_by t.length

theorem run_nil (rules : List Rule) (p : Position) :
    run rules p [] = ([], none) := by
  unfold run
  rfl

theorem run_of_stall {rules : List Rule} {p : Position} {t : Text}
    {i : Nat} (ht : t ≠ []) (h : choose rules t = .stall i) :
    run rules p t = ([], some (.stall ⟨i, p⟩)) := by
  unfold run
  rw [dif_neg ht]
  split <;> simp_all

theorem run_of_crossing {rules : List Rule} {p : Position} {t : Text}
    {c : Crossing} (ht : t ≠ []) (h : choose rules t = .crossing c) :
    run rules p t = ([], some (.crossing c)) := by
  unfold run
  rw [dif_neg ht]
  split <;> simp_all

theorem run_of_take {rules : List Rule} {p : Position} {t : Text}
    {label : Option String} {n : Nat} (ht : t ≠ [])
    (h : choose rules t = .take label n) :
    run rules p t =
      (⟨label, t.take n, p, p.after (t.take n)⟩
          :: (run rules (p.after (t.take n)) (t.drop n)).1,
        (run rules (p.after (t.take n)) (t.drop n)).2) := by
  rw [run, dif_neg ht]
  split <;> simp_all

end Scan

end Highlight
