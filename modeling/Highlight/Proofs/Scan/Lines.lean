/-
Lines are scanned one by one, unless a delimited token joins them.

Where two texts meet at a line feed that lies in no delimited token, the
line feed is a token of its own: no simple token reaches over the end of a
line, and none that begins there has any text. So the tokens before it are
those of the first text alone, and the tokens behind it are those of the
second one, moved down (`tokenize_append_lineFeed`). This holds for all
rules for which the scan comes to an end, compiled or not.

# The end of the first text

A delimited token that stops before the cut was closed there. Its closing
is then the first one in the first text as well (`closes_of_append`),
although that text ends where the other one goes on.
-/
import Highlight.Language.Builtin
import Highlight.Proofs.Scan.Restart
import Highlight.Proofs.Text.Column

namespace Highlight

open Text (lines below positionAt slice restAt)

-- ========================================================== vocabulary

/-- The position with so many rows and characters before it. -/
def Position.down (rows chars : Nat) (p : Position) : Position :=
  ⟨p.row + rows, p.col, p.offset + chars⟩

def Rule.isDelimited : Rule → Bool
  | .simple _ _ => false
  | .delimited _ _ _ => true

namespace Scan

/-- The token is made by a delimited rule. -/
def IsDelimited (rules : List Rule) (source : Text) (t : Token) : Prop :=
  ∃ k rule n, IsFirst rules (restAt source t.start.offset) k rule n
    ∧ rule.isDelimited

/-- The token of the line feed behind a text. -/
def lineFeedToken (t : Text) : Token where
  label := none
  text := ['\n']
  start := positionAt t t.length
  stop := ⟨t.lineFeeds + 1, 0, t.length + 1⟩

/-- Tokens that are those of one text, a line feed, and those of another
text moved down. -/
def Splits (rules : List Rule) (a b : Text) (ts : List Token) : Prop :=
  ∃ us vs, tokenize rules a = .ok us ∧ tokenize rules b = .ok vs
    ∧ ts = us ++ lineFeedToken a
      :: vs.map (.moved (.down (a.lineFeeds + 1) (a.length + 1)))

variable {rules : List Rule} {a b : Text}

-- ============================================================ the texts

theorem positionAt_append {o : Nat} (r : Text) (h : o ≤ a.length) :
    positionAt (a ++ r) o = positionAt a o := by
  unfold positionAt Text.lineStart
  rw [List.take_append_of_le_length h]

theorem tokenAt_append {label : Option String} {o stop : Nat} (r : Text)
    (h : o ≤ a.length) (h' : stop ≤ a.length) :
    tokenAt (a ++ r) label o stop = tokenAt a label o stop := by
  unfold tokenAt slice
  rw [List.take_append_of_le_length h', positionAt_append r h,
    positionAt_append r h']

theorem drop_append_lineFeed {o : Nat} (h : o ≤ a.length) :
    (a ++ '\n' :: b).drop o = a.drop o ++ '\n' :: b :=
  List.drop_append_of_le_length h

theorem restAt_append_lineFeed {o : Nat} (h : o ≤ a.length) :
    restAt (a ++ '\n' :: b) o = restAt a o := by
  unfold restAt
  rw [drop_append_lineFeed h]
  unfold Text.firstLine
  induction a.drop o with
  | nil => rfl
  | cons c t ih =>
      rw [List.cons_append, List.takeWhile_cons, List.takeWhile_cons, ih]

-- ========================================================== the closing

/-- A closing that lies in the first of some lines is found there, whether
other lines follow or not. -/
theorem closes_of_append {closing : Pattern} {line : Text}
    {more others : List Text} {n : Nat} (hne : others ≠ [])
    (h : Closes closing (line :: more ++ others) n)
    (hn : n ≤ (line ++ below more).length) :
    Closes closing (line :: more) n := by
  induction more generalizing line n with
  | nil =>
      rw [Text.below_nil, List.append_nil] at hn
      generalize hls : [line] ++ others = ls at h
      cases h with
      | found h =>
          cases hls
          exact .found h
      | later h hmore hrest =>
          cases hls
          omega
      | unclosed h =>
          cases hls
          exact absurd rfl hne
  | cons l more ih =>
      rw [Text.below_cons, List.length_append, List.length_cons] at hn
      generalize hls : line :: (l :: more) ++ others = ls at h
      cases h with
      | found h =>
          cases hls
          exact .found h
      | later h hmore hrest =>
          cases hls
          exact .later h (List.cons_ne_nil _ _) (ih hrest (by omega))
      | unclosed h => cases hls

theorem closes_lines_of_append {closing : Pattern} {n : Nat}
    (h : Closes closing (lines (a ++ '\n' :: b)) n) (hn : n ≤ a.length) :
    Closes closing (lines a) n := by
  obtain ⟨more, hmore⟩ := Text.lines_eq_cons a
  rw [Text.lines_append_lineFeed_append, hmore] at h
  rw [← Text.firstLine_append_below hmore] at hn
  rw [hmore]
  exact closes_of_append (Text.lines_ne_nil b) h hn

-- =========================================================== the tokens

/-- A token that stops in the first text is a token of it. -/
theorem Lexed.of_append {o : Nat} {t : Token}
    (h : Lexed rules (a ++ '\n' :: b) o t)
    (ht : t.stop.offset ≤ a.length) : Lexed rules a o t := by
  obtain ⟨m, hm, -, heq⟩ := h.bounds
  have hstop : t.stop.offset = o + m := by rw [heq]; rfl
  have ho : o < a.length := by omega
  cases h with
  | @matched k n m rule hf hn hm =>
      have hle : o + m ≤ a.length := ht
      rw [tokenAt_append _ (by omega) hle]
      rw [restAt_append_lineFeed (by omega)] at hf
      refine .matched hf hn ?_
      cases hm with
      | simple => exact .simple
      | @delimited p closing label n m hc =>
          rw [drop_append_lineFeed (by omega)] at hc
          refine .delimited (closes_lines_of_append hc ?_)
          rw [List.length_drop]
          omega
  | unmatched hu _ =>
      have hle : o + 1 ≤ a.length := ht
      rw [tokenAt_append _ (by omega) hle]
      rw [restAt_append_lineFeed (by omega)] at hu
      exact .unmatched hu ho

theorem tokenAt_lineFeed (a b : Text) :
    tokenAt (a ++ '\n' :: b) none a.length (a.length + 1)
      = lineFeedToken a := by
  have hpos := Position.after_positionAt (t := a ++ '\n' :: b)
    (o := a.length) (n := 1) (by simp)
  have hstart := positionAt_append (o := a.length) ('\n' :: b)
    (Nat.le_refl _)
  rw [hstart, List.drop_left] at hpos
  unfold tokenAt lineFeedToken
  rw [Text.slice_eq_take_drop, List.drop_left, hstart, ← hpos]
  show Token.mk _ _ _ ⟨Text.lineFeeds (a.take a.length) + 1, 0, _⟩ = _
  rw [List.take_length]
  rfl

/-- A token that reaches over the cut is the line feed, unless it is made
by a delimited rule. -/
theorem Lexed.eq_lineFeedToken {o : Nat} {t : Token}
    (h : Lexed rules (a ++ '\n' :: b) o t)
    (ho : o ≤ a.length) (ht : a.length < t.stop.offset)
    (hclear : ¬ IsDelimited rules (a ++ '\n' :: b) t) :
    o = a.length ∧ t = lineFeedToken a := by
  cases h with
  | @matched k n m rule hf hn hm =>
      exfalso
      cases hm with
      | simple =>
          have hle := Pattern.matchLength?_le hf.matches_here
          rw [restAt_append_lineFeed ho] at hle
          have hrest := length_restAt_le a o
          have hlt : a.length < o + n := ht
          omega
      | delimited hc => exact hclear ⟨k, _, n, hf, rfl⟩
  | unmatched hu _ =>
      have hlt : a.length < o + 1 := ht
      obtain rfl : o = a.length := by omega
      exact ⟨rfl, tokenAt_lineFeed a b⟩

/-- A path over the cut is a path through the first text, the line feed,
and a path from there on. -/
theorem Path.exists_of_append {o e : Nat} {ts : List Token}
    (h : Path rules (a ++ '\n' :: b) o ts e) (ho : o ≤ a.length)
    (he : a.length < e)
    (hclear : ∀ t ∈ ts, IsDelimited rules (a ++ '\n' :: b) t →
      ¬ (t.start.offset ≤ a.length ∧ a.length < t.stop.offset)) :
    ∃ us vs, ts = us ++ lineFeedToken a :: vs
      ∧ Path rules a o us a.length
      ∧ Path rules (a ++ '\n' :: b) (a.length + 1) vs e := by
  induction h with
  | nil e => omega
  | @cons o e t ts hlex hts ih =>
      have hstart := hlex.start_offset
      by_cases ht : t.stop.offset ≤ a.length
      · obtain ⟨us, vs, rfl, hus, hvs⟩ := ih ht he
          fun u hu => hclear u (List.mem_cons_of_mem t hu)
        exact ⟨t :: us, vs, rfl, .cons (hlex.of_append ht) hus, hvs⟩
      · have hlt := Nat.lt_of_not_le ht
        have hplain : ¬ IsDelimited rules (a ++ '\n' :: b) t := fun hd =>
          hclear t List.mem_cons_self hd ⟨hstart ▸ ho, hlt⟩
        obtain ⟨rfl, rfl⟩ := hlex.eq_lineFeedToken ho hlt hplain
        exact ⟨[], ts, rfl, .nil _, hts⟩

-- ===================================================== the second text

/-- Positions behind a line feed are those of the text that begins there,
moved down. -/
theorem behind_lineFeed (a b : Text) :
    (positionAt (a ++ '\n' :: b) (a.length + 1)).behind
      = Position.down (a.lineFeeds + 1) (a.length + 1) := by
  have hbase : positionAt (a ++ '\n' :: b) (a.length + 1)
      = ⟨a.lineFeeds + 1, 0, a.length + 1⟩ :=
    congrArg Token.stop (tokenAt_lineFeed a b)
  funext p
  rw [hbase]
  unfold Position.behind Position.down
  simp only [Nat.zero_add, ite_self, Position.mk.injEq, true_and]
  omega

/-- The tokens behind the line feed are those of the second text. -/
theorem exists_of_path_behind {vs : List Token}
    (h : Path rules (a ++ '\n' :: b) (a.length + 1) vs
      (a ++ '\n' :: b).length) :
    ∃ ws, tokenize rules b = .ok ws
      ∧ vs = ws.map (.moved (.down (a.lineFeeds + 1) (a.length + 1))) := by
  have hdrop : (a ++ '\n' :: b).drop (a.length + 1) = b := by
    rw [← List.drop_drop, List.drop_left]
    rfl
  have hrun := run_of_path h
  rw [run_of_stops (.done rfl), List.append_nil, hdrop,
    ← Position.behind_origin (positionAt _ _), run_behind,
    behind_lineFeed, Prod.mk.injEq] at hrun
  obtain ⟨htokens, hhalt⟩ := hrun
  refine ⟨_, ?_, htokens.symm⟩
  rw [tokenize_eq_ok_iff]
  exact Prod.ext rfl (Option.map_eq_none_iff.1 hhalt)

end Scan

-- ========================================================== the result

/-- Two texts with a line feed between them are scanned apart, unless a
delimited token joins them: the tokens are those of the first text, the
line feed, and those of the second text in the rows below. -/
theorem tokenize_append_lineFeed (rules : List Rule) (a b : Text)
    (ts : List Token) (h : tokenize rules (a ++ '\n' :: b) = .ok ts) :
    ((∀ t ∈ ts, Scan.IsDelimited rules (a ++ '\n' :: b) t →
        ¬ (t.start.offset ≤ a.length ∧ a.length < t.stop.offset)) →
      Scan.Splits rules a b ts)
      ∧ ((∀ r ∈ rules, r.isDelimited = false) →
        Scan.Splits rules a b ts) := by
  have hsplits : (∀ t ∈ ts, Scan.IsDelimited rules (a ++ '\n' :: b) t →
      ¬ (t.start.offset ≤ a.length ∧ a.length < t.stop.offset)) →
        Scan.Splits rules a b ts := by
    intro hclear
    obtain ⟨us, vs, rfl, hus, hvs⟩ :=
      (Scan.tokenize_ok_iff.1 h).exists_of_append (Nat.zero_le _)
        (by simp) hclear
    obtain ⟨ws, hws, rfl⟩ := Scan.exists_of_path_behind hvs
    exact ⟨us, ws, Scan.tokenize_ok_iff.2 hus, hws, rfl⟩
  refine ⟨hsplits, fun hsimple => hsplits fun t _ hd => ?_⟩
  obtain ⟨k, rule, n, hf, hrule⟩ := hd
  rw [hsimple rule (List.mem_of_getElem? hf.rule_eq)] at hrule
  cases hrule

/-- A comment that was closed before the line feed joins no lines. -/
theorem tokenize_append_lineFeed_comment :
    Scan.Splits Language.css.rules "/*\n*/".toList ".b".toList
      [⟨some "comment", "/*\n*/".toList, ⟨0, 0, 0⟩, ⟨1, 2, 5⟩⟩,
        ⟨none, "\n".toList, ⟨1, 2, 5⟩, ⟨2, 0, 6⟩⟩,
        ⟨some "string", ".b".toList, ⟨2, 0, 6⟩, ⟨2, 2, 8⟩⟩] := by
  refine (tokenize_append_lineFeed Language.css.rules "/*\n*/".toList
    ".b".toList _ (by decide +kernel)).1 fun t ht hd => ?_
  rintro ⟨hstart, hstop⟩
  have hnil : ∀ r ∈ Language.css.rules,
      r.opening.matchLength? [] = .ok none := by
    decide +kernel
  -- Only the line feed reaches over the cut, and there no rule matches.
  simp only [List.mem_cons, List.not_mem_nil, or_false] at ht
  rcases ht with rfl | rfl | rfl
  · exact absurd hstop (by decide)
  · obtain ⟨k, rule, n, hf, -⟩ := hd
    have hm := hf.matches_here
    have hrest : restAt ("/*\n*/".toList ++ '\n' :: ".b".toList) 5 = [] := by
      decide
    rw [hrest, hnil rule (List.mem_of_getElem? hf.rule_eq)] at hm
    cases hm
  · exact absurd hstart (by decide)

end Highlight
