/-
What a scan makes of a text, said without scanning: which rule is the
first one at an offset, how far a closing is away, which token stands at
an offset, and which rows of tokens lead from one offset to another.

# The two directions

Every run of a scan goes along a `Path` to where it `Stops`, and wherever
a path leads, the scan goes along it: no offset has two tokens
(`run_origin_iff`). So what holds along paths holds of scans, at absolute
offsets of the whole source.
-/
import Highlight.Tokenize
import Highlight.Proofs.Text.Offset

namespace Highlight.Scan

open Regex (Crossing)
open Text (positionAt slice restAt)

variable {rules : List Rule} {source : Text}

-- ========================================================== vocabulary

/-- The rule of this number is the first one whose opening matches at the
start of a line's rest, and it takes `n` characters there. -/
structure IsFirst (rules : List Rule) (line : Text) (k : Nat) (rule : Rule)
    (n : Nat) : Prop where
  rule_eq : rules[k]? = some rule
  matches_here : rule.opening.matchLength? line = .ok (some n)
  none_before : ∀ j < k, ∀ r, rules[j]? = some r →
    r.opening.matchLength? line = .ok none

/-- No opening matches at the start of a line's rest. -/
def Unmatched (rules : List Rule) (line : Text) : Prop :=
  ∀ r ∈ rules, r.opening.matchLength? line = .ok none

/-- The closing is first found in one of these lines, so many characters
from their start; if it is in none, that is all of them. -/
inductive Closes (closing : Pattern) : List Text → Nat → Prop
  | found {line : Text} {more : List Text} {n : Nat}
    (h : closing.searchEnd? line = .ok (some n)) :
    Closes closing (line :: more) n
  | later {line : Text} {more : List Text} {n : Nat}
    (h : closing.searchEnd? line = .ok none) (hmore : more ≠ [])
    (hn : Closes closing more n) :
    Closes closing (line :: more) (line.length + 1 + n)
  | unclosed {line : Text} (h : closing.searchEnd? line = .ok none) :
    Closes closing [line] line.length

/-- How far the token of a rule extends whose opening takes `n`
characters at an offset. -/
inductive Extends (source : Text) (o : Nat) : Rule → Nat → Nat → Prop
  | simple {p : Pattern} {label : Option String} {n : Nat} :
    Extends source o (.simple p label) n n
  | delimited {p closing : Pattern} {label : Option String} {n m : Nat}
    (h : Closes closing (Text.lines (source.drop (o + n))) m) :
    Extends source o (.delimited p closing label) n (n + m)

/-- The token of a source between two offsets. -/
def tokenAt (source : Text) (label : Option String) (o stop : Nat) : Token :=
  ⟨label, slice source o stop, positionAt source o, positionAt source stop⟩

/-- The token is that of the rule, the first one that matches where the
token begins. -/
def MadeBy (rules : List Rule) (source : Text) (rule : Rule) (t : Token) :
    Prop :=
  ∃ k n m, IsFirst rules (restAt source t.start.offset) k rule n ∧ 0 < n
    ∧ Extends source t.start.offset rule n m
    ∧ t = tokenAt source rule.label t.start.offset (t.start.offset + m)

/-- The token that stands at an offset. -/
inductive Lexed (rules : List Rule) (source : Text) (o : Nat) :
    Token → Prop
  | matched {k n m : Nat} {rule : Rule}
    (h : IsFirst rules (restAt source o) k rule n) (hn : 0 < n)
    (hm : Extends source o rule n m) :
    Lexed rules source o (tokenAt source rule.label o (o + m))
  | unmatched (h : Unmatched rules (restAt source o))
    (ho : o < source.length) :
    Lexed rules source o (tokenAt source none o (o + 1))

/-- The tokens that lead from one offset to another. -/
inductive Path (rules : List Rule) (source : Text) :
    Nat → List Token → Nat → Prop
  | nil (o : Nat) : Path rules source o [] o
  | cons {o e : Nat} {t : Token} {ts : List Token}
    (ht : Lexed rules source o t)
    (hts : Path rules source t.stop.offset ts e) :
    Path rules source o (t :: ts) e

/-- How a scan ends that has come to an offset: at the end of the source,
at a rule that takes no text, or at a match that cannot be used. -/
inductive Stops (rules : List Rule) (source : Text) (e : Nat) :
    Option Halt → Prop
  | done (h : e = source.length) : Stops rules source e none
  | stall {k : Nat} {rule : Rule} (he : e < source.length)
    (h : IsFirst rules (restAt source e) k rule 0) :
    Stops rules source e (some (.stall ⟨k, positionAt source e⟩))
  | crossing {x : Crossing} (he : e < source.length)
    (h : choose rules (source.drop e) = .crossing x) :
    Stops rules source e (some (.crossing x))

-- ====================================================== the first rule

/-- The first rule of the list is the first to match if it matches. -/
theorem isFirst_zero {r rule : Rule} {more : List Rule} {line : Text}
    {n : Nat} :
    IsFirst (r :: more) line 0 rule n
      ↔ r = rule ∧ r.opening.matchLength? line = .ok (some n) := by
  constructor
  · intro h
    have hr : r = rule := Option.some.inj h.rule_eq
    subst hr
    exact ⟨rfl, h.matches_here⟩
  · rintro ⟨rfl, h⟩
    exact ⟨rfl, h, fun j hj => absurd hj (Nat.not_lt_zero j)⟩

/-- A later one is if the first does not match. -/
theorem isFirst_succ {r rule : Rule} {more : List Rule} {line : Text}
    {k n : Nat} :
    IsFirst (r :: more) line (k + 1) rule n
      ↔ r.opening.matchLength? line = .ok none
        ∧ IsFirst more line k rule n := by
  constructor
  · intro h
    exact ⟨h.none_before 0 (Nat.succ_pos k) r rfl, h.rule_eq, h.matches_here,
      fun j hj => h.none_before (j + 1) (Nat.succ_lt_succ hj)⟩
  · rintro ⟨hr, h⟩
    refine ⟨h.rule_eq, h.matches_here, fun j hj r' hr' => ?_⟩
    cases j with
    | zero =>
        cases hr'
        exact hr
    | succ j => exact h.none_before j (Nat.lt_of_succ_lt_succ hj) r' hr'

/-- The search gives the first rule that matches, with its number. -/
theorem go_eq_some_iff {line : Text} {index i n : Nat} {rule : Rule} :
    first?.go line index rules = .ok (some (i, rule, n))
      ↔ ∃ k, i = index + k ∧ IsFirst rules line k rule n := by
  induction rules generalizing index with
  | nil =>
      constructor
      · intro h
        cases h
      · rintro ⟨k, -, h⟩
        cases h.rule_eq
  | cons r more ih =>
      unfold first?.go
      constructor
      · intro h
        rcases hm : r.opening.matchLength? line with c | (_ | m)
        · rw [hm] at h
          cases h
        · rw [hm] at h
          obtain ⟨k, hk, hf⟩ := ih.1 h
          exact ⟨k + 1, by omega, isFirst_succ.2 ⟨hm, hf⟩⟩
        · rw [hm] at h
          cases h
          exact ⟨0, rfl, isFirst_zero.2 ⟨rfl, hm⟩⟩
      · rintro ⟨k, hk, hf⟩
        cases k with
        | zero =>
            obtain ⟨rfl, hm⟩ := isFirst_zero.1 hf
            rw [hm, hk]
            rfl
        | succ k =>
            obtain ⟨hm, hf'⟩ := isFirst_succ.1 hf
            rw [hm]
            exact ih.2 ⟨k, by omega, hf'⟩

/-- It gives none just if no rule matches. -/
theorem go_eq_none_iff {line : Text} {index : Nat} :
    first?.go line index rules = .ok none ↔ Unmatched rules line := by
  induction rules generalizing index with
  | nil => exact ⟨fun _ r hr => absurd hr List.not_mem_nil, fun _ => rfl⟩
  | cons r more ih =>
      unfold first?.go Unmatched
      rw [List.forall_mem_cons]
      rcases hm : r.opening.matchLength? line with c | (_ | m)
      · simp
      · exact ih.trans ⟨fun h => ⟨rfl, h⟩, fun h => h.2⟩
      · simp

/-- A match that cannot be used stops the search for the first rule; it
is one of an opening. -/
theorem exists_of_go_eq_error {line : Text} {index : Nat} {x : Crossing}
    (h : first?.go line index rules = .error x) :
    ∃ r ∈ rules, r.opening.matchLength? line = .error x := by
  induction rules generalizing index with
  | nil => cases h
  | cons r more ih =>
      unfold first?.go at h
      rcases hm : r.opening.matchLength? line with c | (_ | m)
      · rw [hm] at h
        cases h
        exact ⟨r, List.mem_cons_self, hm⟩
      · rw [hm] at h
        obtain ⟨r', hr', h'⟩ := ih h
        exact ⟨r', List.mem_cons_of_mem _ hr', h'⟩
      · rw [hm] at h
        cases h

-- ========================================================= the closing

/-- Where a closing match is described, it is found. -/
theorem Closes.closingExtent_eq {closing : Pattern} {ls : List Text} {n : Nat}
    (h : Closes closing ls n) : closingExtent closing ls = .ok n := by
  induction h with
  | found hs => rw [closingExtent_cons, hs]
  | later hs hmore _ ih =>
      rw [closingExtent_cons, hs]
      dsimp only
      rw [if_neg hmore, ih]
      rfl
  | unclosed hs =>
      rw [closingExtent_cons, hs]
      rfl

/-- What is found is a closing match as described. -/
theorem closes_of_closingExtent {closing : Pattern} {ls : List Text}
    {n : Nat} (hls : ls ≠ []) (h : closingExtent closing ls = .ok n) :
    Closes closing ls n := by
  induction ls generalizing n with
  | nil => exact absurd rfl hls
  | cons line more ih =>
      rw [closingExtent_cons] at h
      rcases hs : closing.searchEnd? line with x | (_ | m)
      · rw [hs] at h
        cases h
      · rw [hs] at h
        dsimp only at h
        by_cases hm : more = []
        · rw [if_pos hm] at h
          cases h
          rw [hm]
          exact .unclosed hs
        · rw [if_neg hm] at h
          rcases hc : closingExtent closing more with x | k
          · rw [hc] at h
            cases h
          · rw [hc] at h
            cases h
            exact .later hs hm (ih hm hc)
      · rw [hs] at h
        cases h
        exact .found hs

/-- A failure comes from the search of one of the lines. -/
theorem exists_of_closingExtent_eq_error {closing : Pattern}
    {ls : List Text} {x : Crossing}
    (h : closingExtent closing ls = .error x) :
    ∃ line ∈ ls, closing.searchEnd? line = .error x := by
  induction ls with
  | nil => cases h
  | cons line more ih =>
      rw [closingExtent_cons] at h
      rcases hs : closing.searchEnd? line with c | (_ | m)
      · rw [hs] at h
        cases h
        exact ⟨line, List.mem_cons_self, hs⟩
      · rw [hs] at h
        dsimp only at h
        split at h
        · cases h
        · rcases hc : closingExtent closing more with y | k
          · rw [hc] at h
            cases h
            obtain ⟨l, hl, hx⟩ := ih hc
            exact ⟨l, List.mem_cons_of_mem _ hl, hx⟩
          · rw [hc] at h
            cases h
      · rw [hs] at h
        cases h

/-- A token extends as far as its rule says, and the search agrees. -/
theorem extent_eq_ok_iff {rule : Rule} {o n m : Nat} :
    extent rule n (source.drop o) = .ok m ↔ Extends source o rule n m := by
  cases rule with
  | simple p label =>
      constructor
      · intro h
        cases h
        exact .simple
      · intro h
        cases h
        rfl
  | delimited p closing label =>
      have hls := Text.lines_ne_nil (source.drop (o + n))
      simp only [extent, List.drop_drop]
      constructor
      · intro h
        rcases hc : closingExtent closing (Text.lines (source.drop (o + n)))
          with x | k
        · rw [hc] at h
          cases h
        · rw [hc] at h
          cases h
          exact .delimited (closes_of_closingExtent hls hc)
      · intro h
        cases h with
        | delimited h =>
            rw [h.closingExtent_eq]
            rfl

-- ===================================================== tokens at offsets

/-- A closing match lies in the text. -/
theorem closes_le {closing : Pattern} {line : Text} {more : List Text}
    {n : Nat} (h : Closes closing (line :: more) n) :
    n ≤ (line ++ Text.below more).length := by
  induction more generalizing line n with
  | nil =>
      rw [Text.below_nil, List.append_nil]
      cases h with
      | found h => exact Pattern.searchEnd?_le h
      | later _ hmore => exact absurd rfl hmore
      | unclosed => exact Nat.le_refl _
  | cons l ls ih =>
      rw [Text.below_cons, List.length_append, List.length_cons]
      cases h with
      | found h => exact Nat.le_add_right_of_le (Pattern.searchEnd?_le h)
      | later _ _ hn =>
          have := ih hn
          omega

theorem closes_lines_le {closing : Pattern} {t : Text} {n : Nat}
    (h : Closes closing (Text.lines t) n) : n ≤ t.length := by
  obtain ⟨ls, hls⟩ := Text.lines_eq_cons t
  rw [hls] at h
  have hle := closes_le h
  rwa [Text.firstLine_append_below hls] at hle

theorem length_restAt_le (source : Text) (o : Nat) :
    (restAt source o).length ≤ source.length - o := by
  rw [← List.length_drop]
  exact (List.takeWhile_prefix _).length_le

/-- Some text of a line's rest lies in the source. -/
theorem add_le_of_restAt {o n : Nat} (hn : 0 < n)
    (h : n ≤ (restAt source o).length) : o + n ≤ source.length := by
  have hbound := length_restAt_le source o
  omega

/-- A token lies in the source and is not empty. -/
theorem Lexed.bounds {o : Nat} {t : Token} (h : Lexed rules source o t) :
    ∃ m, 0 < m ∧ o + m ≤ source.length
      ∧ t = tokenAt source t.label o (o + m) := by
  cases h with
  | @matched k n m rule h hn hm =>
      have hle := Pattern.matchLength?_le h.matches_here
      have hrest := length_restAt_le source o
      refine ⟨m, ?_, ?_, rfl⟩
      · cases hm with
        | simple => exact hn
        | delimited => omega
      · cases hm with
        | simple => omega
        | delimited h =>
            have := closes_lines_le h
            rw [List.length_drop] at this
            omega
  | unmatched h ho => exact ⟨1, Nat.one_pos, ho, rfl⟩

/-- What the scanner takes is a token as described. -/
theorem lexed_of_choose {o n : Nat} {label : Option String}
    (ho : o < source.length)
    (h : choose rules (source.drop o) = .take label n) :
    Lexed rules source o (tokenAt source label o (o + n)) := by
  unfold choose at h
  rcases hf : first? rules (Text.firstLine (source.drop o))
    with x | (_ | ⟨k, rule, n'⟩)
  · rw [hf] at h
    cases h
  · rw [hf] at h
    cases h
    exact .unmatched (go_eq_none_iff.1 hf) ho
  · rw [hf] at h
    obtain ⟨k', hk', hfirst⟩ := go_eq_some_iff.1 hf
    cases n' with
    | zero => cases h
    | succ n' =>
        dsimp only at h
        rcases he : extent rule (n' + 1) (source.drop o) with x | m
        · rw [he] at h
          cases h
        · rw [he] at h
          cases h
          exact .matched hfirst (Nat.succ_pos n') (extent_eq_ok_iff.1 he)

/-- A token as described is what the scanner takes. -/
theorem choose_of_lexed {o : Nat} {t : Token}
    (h : Lexed rules source o t) :
    ∃ n, choose rules (source.drop o) = .take t.label n
      ∧ t = tokenAt source t.label o (o + n) := by
  unfold choose
  cases h with
  | @matched k n m rule h hn hm =>
      refine ⟨m, ?_, rfl⟩
      have hf : first? rules (Text.firstLine (source.drop o))
          = .ok (some (k, rule, n)) :=
        go_eq_some_iff.2 ⟨k, (Nat.zero_add k).symm, h⟩
      obtain ⟨n, rfl⟩ := Nat.exists_eq_succ_of_ne_zero (Nat.ne_of_gt hn)
      rw [hf]
      dsimp only
      rw [extent_eq_ok_iff.2 hm]
      rfl
  | unmatched h ho =>
      refine ⟨1, ?_, rfl⟩
      have hf : first? rules (Text.firstLine (source.drop o)) = .ok none :=
        go_eq_none_iff.2 h
      rw [hf]
      rfl

/-- The scanner stalls just where the first rule that matches takes
nothing. -/
theorem choose_eq_stall_iff {o k : Nat} :
    choose rules (source.drop o) = .stall k
      ↔ ∃ rule, IsFirst rules (restAt source o) k rule 0 := by
  unfold choose
  constructor
  · intro h
    rcases hf : first? rules (Text.firstLine (source.drop o))
      with x | (_ | ⟨k', rule, n⟩)
    · rw [hf] at h
      cases h
    · rw [hf] at h
      cases h
    · rw [hf] at h
      obtain ⟨i, hi, hfirst⟩ := go_eq_some_iff.1 hf
      cases n with
      | zero =>
          cases h
          rw [hi, Nat.zero_add]
          exact ⟨rule, hfirst⟩
      | succ n =>
          dsimp only at h
          split at h <;> cases h
  · rintro ⟨rule, h⟩
    have hf : first? rules (Text.firstLine (source.drop o))
        = .ok (some (k, rule, 0)) :=
      go_eq_some_iff.2 ⟨k, (Nat.zero_add k).symm, h⟩
    rw [hf]

-- ============================================================ whole runs

theorem drop_ne_nil {o : Nat} (ho : o < source.length) :
    source.drop o ≠ [] :=
  fun h => absurd (List.drop_eq_nil_iff.1 h) (Nat.not_le_of_lt ho)

/-- One token of a run. -/
theorem run_of_lexed {o : Nat} {t : Token} (h : Lexed rules source o t) :
    run rules (positionAt source o) (source.drop o) =
      (t :: (run rules (positionAt source t.stop.offset)
          (source.drop t.stop.offset)).1,
        (run rules (positionAt source t.stop.offset)
          (source.drop t.stop.offset)).2) := by
  obtain ⟨m, hm, hle, ht⟩ := h.bounds
  obtain ⟨n, hc, ht'⟩ := choose_of_lexed h
  have hn : n = m := by
    have h₁ := congrArg (fun t => t.stop.offset) (ht'.symm.trans ht)
    exact Nat.add_left_cancel h₁
  subst hn
  have hstop : t.stop.offset = o + n := by
    rw [ht]
    rfl
  rw [run_of_take (drop_ne_nil (by omega)) hc, hstop, List.drop_drop,
    Position.after_positionAt hle, ← Text.slice_eq_take_drop]
  rw [show (⟨t.label, slice source o (o + n), positionAt source o,
    positionAt source (o + n)⟩ : Token) = t from ht.symm]

/-- A path is what the scan does up to where it leads. -/
theorem run_of_path {o e : Nat} {ts : List Token}
    (h : Path rules source o ts e) :
    run rules (positionAt source o) (source.drop o) =
      (ts ++ (run rules (positionAt source e) (source.drop e)).1,
        (run rules (positionAt source e) (source.drop e)).2) := by
  induction h with
  | nil o => rfl
  | cons ht hts ih => rw [run_of_lexed ht, ih, List.cons_append]

/-- Where a scan stops it makes no more tokens. -/
theorem run_of_stops {e : Nat} {halt : Option Halt}
    (h : Stops rules source e halt) :
    run rules (positionAt source e) (source.drop e) = ([], halt) := by
  cases h with
  | done h => rw [h, List.drop_length, run_nil]
  | stall he h =>
      exact run_of_stall (drop_ne_nil he) (choose_eq_stall_iff.2 ⟨_, h⟩)
  | crossing he h => exact run_of_crossing (drop_ne_nil he) h

/-- Every run goes along a path to where it stops. -/
theorem exists_path_of_run (rules : List Rule) {o : Nat}
    (ho : o ≤ source.length) :
    ∃ e, Path rules source o
        (run rules (positionAt source o) (source.drop o)).1 e
      ∧ Stops rules source e
        (run rules (positionAt source o) (source.drop o)).2 := by
  induction hd : source.length - o using Nat.strongRecOn generalizing o with
  | ind d ih =>
      rcases Nat.lt_or_eq_of_le ho with hlt | heq
      · cases hc : choose rules (source.drop o) with
        | take label n =>
            have ht := lexed_of_choose hlt hc
            obtain ⟨m, hm, hle, hm'⟩ := ht.bounds
            have hn : n = m := by
              have h₁ := congrArg (fun t => t.stop.offset) hm'
              exact Nat.add_left_cancel h₁
            subst hn
            obtain ⟨e, hp, hs⟩ := ih _ (by omega) hle rfl
            rw [run_of_lexed ht]
            exact ⟨e, .cons ht hp, hs⟩
        | stall k =>
            obtain ⟨rule, h⟩ := choose_eq_stall_iff.1 hc
            rw [run_of_stall (drop_ne_nil hlt) hc]
            exact ⟨o, .nil o, .stall hlt h⟩
        | crossing x =>
            rw [run_of_crossing (drop_ne_nil hlt) hc]
            exact ⟨o, .nil o, .crossing hlt hc⟩
      · rw [heq, List.drop_length, run_nil]
        exact ⟨source.length, .nil _, .done rfl⟩

/-- What a scan of a source does. -/
theorem run_origin_iff {ts : List Token} {halt : Option Halt} :
    run rules .origin source = (ts, halt)
      ↔ ∃ e, Path rules source 0 ts e ∧ Stops rules source e halt := by
  have h0 : run rules (positionAt source 0) (source.drop 0)
      = run rules .origin source := by
    rw [Text.positionAt_zero, List.drop_zero]
  constructor
  · intro h
    obtain ⟨e, hp, hs⟩ :=
      exists_path_of_run rules (Nat.zero_le source.length)
    rw [h0, h] at hp hs
    exact ⟨e, hp, hs⟩
  · rintro ⟨e, hp, hs⟩
    rw [← h0, run_of_path hp, run_of_stops hs, List.append_nil]

/-- The tokens of a text are those of a run up to its end. -/
theorem tokenize_ok_iff {ts : List Token} :
    tokenize rules source = .ok ts
      ↔ Path rules source 0 ts source.length := by
  rw [tokenize_eq_ok_iff, run_origin_iff]
  constructor
  · rintro ⟨e, hp, hs⟩
    cases hs with
    | done h => rwa [h] at hp
  · intro h
    exact ⟨_, h, .done rfl⟩

/-- A scan that fails has run up to the place where it stops. -/
theorem tokenize_error_iff {halt : Halt} :
    tokenize rules source = .error halt
      ↔ ∃ ts e, Path rules source 0 ts e
        ∧ Stops rules source e (some halt) := by
  rw [tokenize_eq_error_iff]
  constructor
  · intro h
    obtain ⟨e, hp, hs⟩ := run_origin_iff.1
      (Prod.ext rfl h : run rules .origin source = (_, some halt))
    exact ⟨_, e, hp, hs⟩
  · rintro ⟨ts, e, hp, hs⟩
    rw [run_origin_iff.2 ⟨e, hp, hs⟩]

end Highlight.Scan
