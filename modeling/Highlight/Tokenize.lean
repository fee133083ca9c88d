/-
Scanning with a cursor: the rules are tried where the cursor stands, and
the cursor is moved over each part of a token as it is found.

A walk can go wrong in one more way than a scan: the cursor may be sent
beyond the last line. It never is. `Walk.scan_eq_run` says that a walk
makes the tokens of the scan of the text ahead and halts where that
halts, so `tokenize` has only the scan's own ways to fail.

# A token over several lines

Behind the opening of a delimited rule the closing is searched in the
rest of the line. If it is not there, the rest of the line and the line
feed behind it go into the token, and the search goes on in the next
line. On the last line the token takes what is left.
-/
import Highlight.Cursor
import Highlight.Scan

namespace Highlight

namespace Walk

open Regex (Crossing)

/-- Why a walk comes to no end. -/
inductive Fault where
  | halt (h : Halt)
  /-- A line beyond the last one was asked for. -/
  | outside
deriving DecidableEq, Repr

/-- The answer of a pattern. -/
def answer {α : Type} : Except Crossing α → Except Fault α
  | .ok a => .ok a
  | .error c => .error (.halt (.crossing c))

/-- The cursor `n` characters on. -/
def step (n : Nat) (c : Cursor) : Except Fault Cursor :=
  match c.advance? n with
  | some d => .ok d
  | none => .error .outside

theorem step_eq_ok_iff {n : Nat} {c d : Cursor} :
    step n c = .ok d ↔ c.advance? n = some d := by
  unfold step
  cases c.advance? n <;> simp

/-- The text up to the end of the closing, and the cursor behind it. -/
def close (closing : Pattern) (c : Cursor) : Except Fault (Text × Cursor) :=
  match answer (closing.searchEnd? c.lineRest) with
  | .error f => .error f
  | .ok (some n) => (step n c).map (c.lineRest.take n, ·)
  | .ok none =>
    if c.onLastLine then
      (step c.lineRest.length c).map (c.lineRest, ·)
    else
      match h : step (c.lineRest.length + 1) c with
      | .error f => .error f
      | .ok d =>
        have := Cursor.length_ahead_of_advance? (step_eq_ok_iff.1 h)
        (close closing d).map fun (text, e) =>
          (c.lineRest ++ '\n' :: text, e)
termination_by c.ahead.length

/-- The token of a rule whose opening matches a number of characters, and
the cursor behind it. -/
def take (rule : Rule) (n : Nat) (c : Cursor) :
    Except Fault (Token × Cursor) :=
  match step n c with
  | .error f => .error f
  | .ok d =>
    let opening := c.lineRest.take n
    match rule with
    | .simple _ label => .ok (⟨label, opening, c.position, d.position⟩, d)
    | .delimited _ closing label =>
      (close closing d).map fun (text, e) =>
        (⟨label, opening ++ text, c.position, e.position⟩, e)

/-- The token of a rule where the cursor stands, and the cursor behind it,
if the opening of the rule matches there. -/
def apply (index : Nat) (rule : Rule) (c : Cursor) :
    Except Fault (Option (Token × Cursor)) :=
  match answer (rule.opening.matchLength? c.lineRest) with
  | .error f => .error f
  | .ok none => .ok none
  | .ok (some 0) => .error (.halt (.stall ⟨index, c.position⟩))
  | .ok (some (n + 1)) => (take rule (n + 1) c).map some

/-- The token of the first rule that applies. The rules are numbered from
the given number on. -/
def first (c : Cursor) (index : Nat) :
    List Rule → Except Fault (Option (Token × Cursor))
  | [] => .ok none
  | rule :: more =>
    match apply index rule c with
    | .error f => .error f
    | .ok (some found) => .ok (some found)
    | .ok none => first c (index + 1) more

/-- The next token: that of the first rule that applies, or else a single
character. -/
def next (rules : List Rule) (c : Cursor) : Except Fault (Token × Cursor) :=
  match first c 0 rules with
  | .error f => .error f
  | .ok (some found) => .ok found
  | .ok none =>
    (step 1 c).map fun d => (⟨none, [c.char], c.position, d.position⟩, d)

-- ==================================================== what a walk makes

/-- A walk over as many characters as a scan says. -/
inductive Follows (c : Cursor) :
    Except Crossing Nat → Except Fault (Text × Cursor) → Prop
  | ok {n : Nat} {d : Cursor} (h : c.advance? n = some d) :
    Follows c (.ok n) (.ok (c.ahead.take n, d))
  | error (x : Crossing) : Follows c (.error x) (.error (.halt (.crossing x)))

/-- A walk that makes the token of a scan's choice. -/
inductive Makes (c : Cursor) :
    Scan.Choice → Except Fault (Token × Cursor) → Prop
  | take {label : Option String} {n : Nat} {d : Cursor}
    (h : c.advance? n = some d) :
    Makes c (.take label n)
      (.ok (⟨label, c.ahead.take n, c.position, d.position⟩, d))
  | stall (i : Nat) :
    Makes c (.stall i) (.error (.halt (.stall ⟨i, c.position⟩)))
  | crossing (x : Crossing) :
    Makes c (.crossing x) (.error (.halt (.crossing x)))

/-- A step within the text ahead succeeds. -/
theorem exists_step {n : Nat} {c : Cursor} (h : n ≤ c.ahead.length) :
    ∃ d, c.advance? n = some d ∧ step n c = .ok d := by
  obtain ⟨d, hd⟩ := Option.isSome_iff_exists.1
    ((Cursor.advance?_isSome_iff n c).2 h)
  exact ⟨d, hd, step_eq_ok_iff.2 hd⟩

theorem take_lineRest {n : Nat} {c : Cursor} (h : n ≤ c.lineRest.length) :
    c.lineRest.take n = c.ahead.take n :=
  (List.take_append_of_le_length h).symm

theorem length_lineRest_le (c : Cursor) :
    c.lineRest.length ≤ c.ahead.length := by
  unfold Cursor.ahead
  rw [List.length_append]
  exact Nat.le_add_right _ _

theorem answer_eq_ok_iff {α : Type} {e : Except Crossing α} {a : α} :
    answer e = .ok a ↔ e = .ok a := by
  cases e <;> simp [answer]

theorem answer_eq_error_iff {α : Type} {e : Except Crossing α}
    {f : Fault} :
    answer e = .error f ↔ ∃ x, e = .error x ∧ f = .halt (.crossing x) := by
  cases e <;> simp [answer, eq_comm]

/-- A line that is not the last one has a line below, so the step to it
succeeds. -/
theorem exists_step_line {c : Cursor} (hl : ¬ c.onLastLine = true) :
    ∃ d, step (c.lineRest.length + 1) c = .ok d := by
  rcases c.ahead_cases with ⟨hn, -⟩ | ⟨d, -, ha⟩
  · exact absurd (c.onLastLine_iff.2 hn) hl
  · obtain ⟨e, -, he⟩ := exists_step (c := c)
      (n := c.lineRest.length + 1)
      (by rw [ha, List.length_append, List.length_cons]; omega)
    exact ⟨e, he⟩

/-- A walk to the end of a closing goes as far as the closing extends. -/
theorem follows_close (closing : Pattern) (c : Cursor) :
    Follows c (Scan.closingExtent closing (Text.lines c.ahead))
      (close closing c) := by
  obtain ⟨ls, hls⟩ := Text.lines_eq_cons c.ahead
  rw [hls, ← c.lineRest_eq_firstLine, Scan.closingExtent_cons]
  -- The closing is looked for line by line, so the lines that are left are
  -- the ones ahead of the cursor at every turn.
  fun_induction close closing c generalizing ls with
  | case1 c f hs =>
    obtain ⟨x, hx, rfl⟩ := answer_eq_error_iff.1 hs
    rw [hx]
    exact .error x
  | case2 c n hs =>
    have hx := answer_eq_ok_iff.1 hs
    have hn := Pattern.searchEnd?_le hx
    obtain ⟨d, hd, hstep⟩ := exists_step (c := c) (n := n)
      (Nat.le_trans hn (length_lineRest_le c))
    rw [hx, hstep, take_lineRest hn]
    exact .ok hd
  | case3 c hs hl =>
    have hx := answer_eq_ok_iff.1 hs
    obtain ⟨d, hd, hstep⟩ := exists_step (length_lineRest_le c)
    have ha := Cursor.ahead_of_nextLine?_eq_none (c.onLastLine_iff.1 hl)
    have hnil : ls = [] := by
      rw [ha, Text.lines_of_not_mem c.lineFeed_not_mem_lineRest] at hls
      exact (List.cons.inj hls).2.symm
    have htext : c.lineRest = c.ahead.take c.lineRest.length := by
      rw [ha, List.take_length]
    rw [hx, hstep]
    simp only [hnil, ↓reduceIte, Except.map]
    have := Follows.ok hd
    rwa [← htext] at this
  | case4 c hs hl f hf =>
    obtain ⟨e, he⟩ := exists_step_line hl
    cases hf.symm.trans he
  | case5 c hs hl d hd _ ih =>
    have hx := answer_eq_ok_iff.1 hs
    have hadv := step_eq_ok_iff.1 hd
    have ha := Cursor.ahead_of_advance?_line hl hadv
    obtain ⟨ms, hms⟩ := Text.lines_eq_cons d.ahead
    have hcons : ls = Text.lines d.ahead := by
      rw [ha, Text.lines_append_lineFeed _ c.lineFeed_not_mem_lineRest]
        at hls
      exact (List.cons.inj hls).2.symm
    have hih := ih ms hms
    rw [← Scan.closingExtent_cons, d.lineRest_eq_firstLine, ← hms, ← hcons]
      at hih
    have hne : ls ≠ [] := by rw [hcons, hms]; exact List.cons_ne_nil _ _
    rw [hx]
    simp only [hne, ↓reduceIte]
    generalize Scan.closingExtent closing ls = extent,
      close closing d = walked at hih
    cases hih with
    | error x => exact .error x
    | @ok n e he =>
      have hn : c.advance? (c.lineRest.length + 1 + n) = some e := by
        rw [Cursor.advance?_add, hadv]
        exact he
      show Follows c (.ok _) (.ok (_, e))
      rw [← Text.take_append_lineFeed, ← ha]
      exact .ok hn

/-- A walk over the token of a rule goes as far as the rule extends. -/
theorem makes_take (rule : Rule) {n : Nat} {c : Cursor}
    (h : n ≤ c.lineRest.length) :
    Makes c
      (match Scan.extent rule n c.ahead with
        | .error x => .crossing x
        | .ok m => .take rule.label m)
      (take rule n c) := by
  obtain ⟨d, hd, hstep⟩ := exists_step (c := c) (n := n)
    (Nat.le_trans h (length_lineRest_le c))
  unfold take
  rw [hstep, take_lineRest h]
  cases rule with
  | simple p label => exact .take hd
  | delimited p closing label =>
    have hf := follows_close closing d
    rw [Cursor.ahead_of_advance? hd] at hf
    simp only [Scan.extent]
    generalize Scan.closingExtent closing (Text.lines (c.ahead.drop n))
      = extent, close closing d = walked at hf
    cases hf with
    | error x => exact .crossing x
    | @ok m e he =>
      have hadv : c.advance? (n + m) = some e := by
        rw [Cursor.advance?_add, hd]
        exact he
      have htext : c.ahead.take n ++ d.ahead.take m
          = c.ahead.take (n + m) := by
        rw [Cursor.ahead_of_advance? hd, List.take_add]
      show Makes c (.take label (n + m))
        (.ok (⟨label, c.ahead.take n ++ d.ahead.take m, _, _⟩, e))
      rw [htext]
      exact .take hadv

/-- The first rule that applies is the first one whose opening matches. -/
theorem first_eq (c : Cursor) (index : Nat) (rules : List Rule) :
    first c index rules =
      match Scan.first?.go c.lineRest index rules with
      | .error x => .error (.halt (.crossing x))
      | .ok none => .ok none
      | .ok (some (i, _, 0)) => .error (.halt (.stall ⟨i, c.position⟩))
      | .ok (some (_, rule, n + 1)) => (take rule (n + 1) c).map some := by
  induction rules generalizing index with
  | nil => rfl
  | cons rule more ih =>
    simp only [first, Scan.first?.go, apply]
    rcases rule.opening.matchLength? c.lineRest with x | (_ | (_ | n))
    · rfl
    · exact ih (index + 1)
    · rfl
    · simp only [answer]
      cases take rule (n + 1) c <;> rfl

/-- A walk over the next token does what the scan of the text ahead
chooses. -/
theorem makes_next (rules : List Rule) {c : Cursor} (h : c.ahead ≠ []) :
    Makes c (Scan.choose rules c.ahead) (next rules c) := by
  unfold next Scan.choose
  rw [first_eq, Scan.first?, c.lineRest_eq_firstLine]
  cases hf : Scan.first?.go (Text.firstLine c.ahead) 0 rules with
  | error x => exact .crossing x
  | ok found =>
    match found with
    | none =>
      have hlen := List.length_pos_iff.2 h
      obtain ⟨d, hd, hstep⟩ := exists_step (c := c) (n := 1) hlen
      have hchar : [c.char] = c.ahead.take 1 := by
        rw [List.take_one, Cursor.head?_ahead c h]
        rfl
      rw [hstep, hchar]
      exact .take hd
    | some (i, _, 0) => exact .stall i
    | some (_, rule, n + 1) =>
      have hle : n + 1 ≤ c.lineRest.length := by
        rw [c.lineRest_eq_firstLine]
        exact Pattern.matchLength?_le (Scan.matchLength?_of_go hf)
      have ht := makes_take rule hle
      simp only [Except.map]
      generalize take rule (n + 1) c = taken at ht ⊢
      cases taken with
      | error f => exact ht
      | ok found => exact ht

-- ====================================================== the whole walk

/-- At the end of the text no token is made. -/
theorem next_ne_ok {rules : List Rule} {c : Cursor} (h : c.ahead = [])
    (made : Token × Cursor) : next rules c ≠ .ok made := by
  have hline : c.lineRest = [] := by
    rw [c.lineRest_eq_firstLine, h]
    rfl
  intro hn
  unfold next at hn
  rw [first_eq] at hn
  cases hf : Scan.first?.go c.lineRest 0 rules with
  | error x =>
    rw [hf] at hn
    cases hn
  | ok found =>
    rw [hf] at hn
    match found with
    | none =>
      have hstep : ¬ (c.advance? 1).isSome := by
        rw [Cursor.advance?_isSome_iff, h]
        exact Nat.not_succ_le_zero 0
      cases hs : step 1 c with
      | error f =>
        rw [hs] at hn
        cases hn
      | ok d =>
        rw [step_eq_ok_iff.1 hs] at hstep
        exact hstep rfl
    | some (_, _, 0) => cases hn
    | some (_, rule, n + 1) =>
      have hle := Pattern.matchLength?_le (Scan.matchLength?_of_go hf)
      rw [hline] at hle
      exact Nat.not_succ_le_zero n hle

/-- Every token takes the cursor on. -/
theorem lt_of_next {rules : List Rule} {c d : Cursor} {t : Token}
    (h : next rules c = .ok (t, d)) : c.offset < d.offset := by
  have hc : c.ahead ≠ [] := fun e => next_ne_ok e _ h
  have hm := makes_next rules hc
  rw [h] at hm
  generalize hchoice : Scan.choose rules c.ahead = choice at hm
  cases hm with
  | take hd =>
    rw [Cursor.offset_of_advance? hd]
    exact Nat.lt_add_of_pos_right (Scan.length_pos_of_choose hchoice)

/-- The tokens from the cursor on, and what ended the walk before the end
of the text. -/
def scan (rules : List Rule) (source : Text) (c : Cursor) :
    List Token × Option Fault :=
  if c.offset < source.length then
    match h : next rules c with
    | .error f => ([], some f)
    | .ok (t, d) =>
      have := lt_of_next h
      let (ts, f) := scan rules source d
      (t :: ts, f)
  else ([], none)
termination_by source.length - c.offset

/-- A walk makes the tokens of the scan of the text ahead, and halts where
that does. -/
theorem scan_eq_run {rules : List Rule} {source : Text} {c : Cursor}
    (h : c.offset + c.ahead.length = source.length) :
    scan rules source c =
      ((Scan.run rules c.position c.ahead).1,
        (Scan.run rules c.position c.ahead).2.map .halt) := by
  -- The cursor is at the end just if nothing is ahead of it.
  fun_induction scan rules source c with
  | case1 c hlt f hn =>
    have hc : c.ahead ≠ [] := by
      rw [← List.length_pos_iff]
      omega
    have hm := makes_next rules hc
    rw [hn] at hm
    generalize hchoice : Scan.choose rules c.ahead = choice at hm
    cases hm with
    | stall i => rw [Scan.run_of_stall hc hchoice]; rfl
    | crossing x => rw [Scan.run_of_crossing hc hchoice]; rfl
  | case2 c hlt t d hn _ ts f hrec ih =>
    have hc : c.ahead ≠ [] := by
      rw [← List.length_pos_iff]
      omega
    have hm := makes_next rules hc
    rw [hn] at hm
    generalize hchoice : Scan.choose rules c.ahead = choice at hm
    cases hm with
    | take hd =>
      have hlen := Cursor.length_ahead_of_advance? hd
      have hoff := Cursor.offset_of_advance? hd
      have hpos := Cursor.position_of_advance? hd
      have hahead := Cursor.ahead_of_advance? hd
      rw [Scan.run_of_take hc hchoice, ← hpos, ← hahead]
      have hih := ih (by omega)
      rw [hrec] at hih
      rw [Prod.mk.injEq] at hih
      rw [hih.1, hih.2]
  | case3 c hge =>
    have hc : c.ahead = [] := by
      rw [← List.length_eq_zero_iff]
      omega
    rw [hc, Scan.run_nil]
    rfl

/-- A walk from the start of a text. -/
theorem scan_start (rules : List Rule) (source : Text) :
    scan rules source (.start source) =
      ((Scan.run rules .origin source).1,
        (Scan.run rules .origin source).2.map .halt) := by
  have hlen : (Cursor.start source).offset
      + (Cursor.start source).ahead.length = source.length := by
    rw [Cursor.ahead_start]
    exact Nat.zero_add _
  rw [scan_eq_run hlen, Cursor.ahead_start]
  rfl

/-- The cursor never leaves the text. -/
theorem scan_ne_outside (rules : List Rule) (source : Text) :
    (scan rules source (.start source)).2 ≠ some .outside := by
  rw [scan_start]
  intro h
  obtain ⟨e, -, he⟩ := Option.map_eq_some_iff.1 h
  cases he

end Walk

/-- The tokens of a text, or what halts the scan. -/
def tokenize (rules : List Rule) (source : Text) :
    Except Halt (List Token) :=
  let walk := Walk.scan rules source (.start source)
  match h : walk.2 with
  | none => .ok walk.1
  | some (.halt e) => .error e
  | some .outside => absurd h (Walk.scan_ne_outside rules source)

/-- The tokens of a text are those of the recursion on it. -/
theorem tokenize_eq (rules : List Rule) (source : Text) :
    tokenize rules source =
      match Scan.run rules .origin source with
      | (ts, none) => .ok ts
      | (_, some e) => .error e := by
  have hs := Walk.scan_start rules source
  rcases hrun : Scan.run rules .origin source with ⟨ts, _ | e⟩
  · rw [hrun] at hs
    unfold tokenize
    dsimp only
    split
    · rw [hs]
    · next h => simp [hs] at h
    · next h => simp [hs] at h
  · rw [hrun] at hs
    unfold tokenize
    dsimp only
    split
    · next h => simp [hs] at h
    · next h =>
      rw [hs] at h
      cases h
      rfl
    · next h => simp [hs] at h

theorem tokenize_eq_ok_iff {rules : List Rule} {source : Text}
    {ts : List Token} :
    tokenize rules source = .ok ts
      ↔ Scan.run rules .origin source = (ts, none) := by
  rw [tokenize_eq]
  rcases Scan.run rules .origin source with ⟨us, _ | e⟩ <;> simp

theorem tokenize_eq_error_iff {rules : List Rule} {source : Text}
    {e : Halt} :
    tokenize rules source = .error e
      ↔ (Scan.run rules .origin source).2 = some e := by
  rw [tokenize_eq]
  rcases Scan.run rules .origin source with ⟨us, _ | e'⟩ <;> simp

end Highlight
