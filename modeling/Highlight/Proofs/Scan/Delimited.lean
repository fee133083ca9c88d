/-
How far the token of a delimited rule reaches.

Behind the opening the closing is searched in what is left of the line,
and then in one whole line after the other. The token stops where the
leftmost match in the first of these segments ends that has one; if there
is none, it takes all the text there is (`apply_delimited`).

# The loop

`closeLogged` is the walk to the closing with an account of the segments
it has searched: the text of each with its row. It leads to the same
outcome (`outcome_closeLogged`), and its account is a first part of the
list of segments (`visited_closeLogged`), so no segment is searched twice.
-/
import Highlight.Language.Builtin
import Highlight.Proofs.Regex.Leftmost
import Highlight.Proofs.Scan.Lexed

namespace Highlight

open Text (below lines positionAt slice)
open Regex (Crossing)

namespace Walk

-- ========================================================== vocabulary

/-- The lines that a closing is searched in, behind an opening of so many
characters: what is left of the line, and each line below it. -/
def segments (c : Cursor) (n : Nat) : List Text :=
  c.lineRest.drop n :: c.lines.drop (c.row + 1)

/-- The search for the closing has an answer in the line of this number,
and finds nothing in the lines before. -/
structure Settles (closing : Pattern) (ls : List Text) (i : Nat)
    (line : Text) : Prop where
  line_eq : ls[i]? = some line
  none_before : ∀ l ∈ ls.take i, closing.searchEnd? l = .ok none

/-- The number of characters in so many lines and the line feeds behind
them. -/
def passed (ls : List Text) (i : Nat) : Nat := (below (ls.take i)).length

/-- The search for the closing has an answer in the line. -/
def answers (closing : Pattern) (line : Text) : Bool :=
  match closing.searchEnd? line with
  | .ok none => false
  | _ => true

/-- A walk to the closing: the lines it has searched, each with its row,
and its outcome. -/
structure Logged where
  visited : List (Text × Nat)
  outcome : Except Fault (Text × Cursor)

/-- The walk to the end of the closing, with the lines it searches. -/
def closeLogged (closing : Pattern) (c : Cursor) : Logged :=
  let here := (c.lineRest, c.row)
  match answer (closing.searchEnd? c.lineRest) with
  | .error f => ⟨[here], .error f⟩
  | .ok (some n) => ⟨[here], (step n c).map (c.lineRest.take n, ·)⟩
  | .ok none =>
    if c.onLastLine then
      ⟨[here], (step c.lineRest.length c).map (c.lineRest, ·)⟩
    else
      match h : step (c.lineRest.length + 1) c with
      | .error f => ⟨[here], .error f⟩
      | .ok d =>
        have := Cursor.length_ahead_of_advance? (step_eq_ok_iff.1 h)
        let more := closeLogged closing d
        ⟨here :: more.visited, more.outcome.map fun (text, e) =>
          (c.lineRest ++ '\n' :: text, e)⟩
termination_by c.ahead.length

/-- A rule makes the token of the source between two offsets, and leaves
the cursor at the position of the second. -/
def StopsAt (source : Text) (index : Nat) (rule : Rule) (c : Cursor)
    (k stop : Nat) : Prop :=
  stop ≤ source.length
    ∧ ∃ d, apply index rule c
        = .ok (some (Scan.tokenAt source rule.label k stop, d))
      ∧ d.position = positionAt source stop

variable {closing : Pattern} {ls more : List Text} {line : Text} {i m : Nat}
  {c d : Cursor} {x : Crossing}

-- ============================================================ segments

/-- Lines that are joined and split again are the same lines. -/
theorem lines_append_below {l : Text} (hl : '\n' ∉ l)
    (hls : ∀ l ∈ ls, '\n' ∉ l) : lines (l ++ below ls) = l :: ls := by
  induction ls generalizing l with
  | nil =>
      rw [Text.below_nil, List.append_nil]
      exact Text.lines_of_not_mem hl
  | cons k ls ih =>
      rw [List.forall_mem_cons] at hls
      rw [Text.below_cons, Text.lines_append_lineFeed _ hl, ih hls.1 hls.2]

/-- The lines ahead of a cursor. -/
theorem lines_ahead (c : Cursor) :
    lines c.ahead = c.lineRest :: c.lines.drop (c.row + 1) :=
  lines_append_below c.lineFeed_not_mem_lineRest
    fun _ hl => c.lines_clean _ (List.mem_of_mem_drop hl)

/-- Within its line a cursor only moves to another column. -/
theorem lines_ahead_of_advance? {n : Nat} (h : c.advance? n = some d)
    (hn : n ≤ c.lineRest.length) :
    lines d.ahead = segments c n ∧ d.row = c.row := by
  have hclean : '\n' ∉ c.lineRest.take n :=
    fun hm => c.lineFeed_not_mem_lineRest (List.mem_of_mem_take hm)
  have hpos := Cursor.position_of_advance? h
  rw [← take_lineRest hn, Position.after_of_not_mem _ hclean] at hpos
  have hrow : d.row = c.row := congrArg Position.row hpos
  have hcol : d.col = c.col + n := by
    have := congrArg Position.col hpos
    rwa [List.length_take_of_le hn] at this
  have hlines := Cursor.lines_of_advance? h
  have hline : d.line = c.line := by
    simp only [Cursor.line, List.get_eq_getElem, hlines, hrow]
  refine ⟨?_, hrow⟩
  rw [lines_ahead, hlines, hrow]
  unfold segments Cursor.lineRest
  rw [hline, hcol, List.drop_drop]

-- ========================================================== the answer

/-- What is settled on a later line leaves the first one unmatched. -/
theorem Settles.pred {l : Text}
    (h : Settles closing (l :: more) (i + 1) line) :
    closing.searchEnd? l = .ok none ∧ Settles closing more i line := by
  have hnone := h.none_before
  rw [List.take_succ_cons, List.forall_mem_cons] at hnone
  exact ⟨hnone.1, h.line_eq, hnone.2⟩

/-- There is a line on which it is settled. -/
theorem Settles.ne_nil (h : Settles closing ls i line) : ls ≠ [] := by
  rintro rfl
  cases h.line_eq

/-- A line that is passed counts with its line feed. -/
theorem passed_succ (l : Text) (more : List Text) (i : Nat) :
    passed (l :: more) (i + 1) = l.length + 1 + passed more i := by
  unfold passed
  rw [List.take_succ_cons, Text.below_cons, List.length_cons,
    List.length_append]
  omega

/-- A closing that is found in a line extends over the lines before. -/
theorem Settles.closingExtent_eq (h : Settles closing ls i line)
    (hm : closing.searchEnd? line = .ok (some m)) :
    Scan.closingExtent closing ls = .ok (passed ls i + m) := by
  induction i generalizing ls with
  | zero =>
      obtain ⟨more, rfl⟩ : ∃ more, ls = line :: more := by
        cases ls with
        | nil => cases h.line_eq
        | cons l more =>
            cases h.line_eq
            exact ⟨more, rfl⟩
      have hzero : passed (line :: more) 0 = 0 := rfl
      rw [Scan.closingExtent_cons, hm, hzero, Nat.zero_add]
  | succ i ih =>
      cases ls with
      | nil => cases h.line_eq
      | cons l more =>
          obtain ⟨hl, hmore⟩ := h.pred
          rw [Scan.closingExtent_cons, hl]
          dsimp only
          rw [if_neg hmore.ne_nil, ih hmore, passed_succ]
          show Except.ok (l.length + 1 + (passed more i + m)) = _
          rw [Nat.add_assoc (l.length + 1)]

/-- An answer that cannot be used is the answer for all lines. -/
theorem Settles.closingExtent_eq_error (h : Settles closing ls i line)
    (hx : closing.searchEnd? line = .error x) :
    Scan.closingExtent closing ls = .error x := by
  induction i generalizing ls with
  | zero =>
      cases ls with
      | nil => cases h.line_eq
      | cons l more =>
          cases h.line_eq
          rw [Scan.closingExtent_cons, hx]
  | succ i ih =>
      cases ls with
      | nil => cases h.line_eq
      | cons l more =>
          obtain ⟨hl, hmore⟩ := h.pred
          rw [Scan.closingExtent_cons, hl]
          dsimp only
          rw [if_neg hmore.ne_nil, ih hmore]
          rfl

/-- A closing that is found nowhere extends over all lines. -/
theorem closingExtent_of_nowhere
    (h : ∀ l ∈ line :: more, closing.searchEnd? l = .ok none) :
    Scan.closingExtent closing (line :: more)
      = .ok (line ++ below more).length := by
  induction more generalizing line with
  | nil =>
      rw [Scan.closingExtent_cons, h line List.mem_cons_self]
      simp
  | cons l more ih =>
      rw [List.forall_mem_cons] at h
      rw [Scan.closingExtent_cons, h.1]
      dsimp only
      rw [if_neg (List.cons_ne_nil l more), ih h.2]
      simp [Except.map]
      omega

-- ============================================================= the loop

/-- Keeping an account changes nothing about the walk. -/
theorem outcome_closeLogged (closing : Pattern) (c : Cursor) :
    (closeLogged closing c).outcome = close closing c := by
  fun_induction close closing c with
  | case1 c f hs => rw [closeLogged, hs]
  | case2 c n hs => rw [closeLogged, hs]
  | case3 c hs hl =>
      rw [closeLogged, hs]
      simp only [hl, ↓reduceIte]
  | case4 c hs hl f hf =>
      rw [closeLogged, hs]
      dsimp only
      rw [if_neg hl]
      split
      · next f' hf' =>
        rw [hf] at hf'
        cases hf'
        rfl
      · next hd =>
        rw [hf] at hd
        cases hd
  | case5 c hs hl d hd _ ih =>
      rw [closeLogged, hs]
      dsimp only
      rw [if_neg hl]
      split
      · next hf =>
        rw [hd] at hf
        cases hf
      · next d' hd' =>
        rw [hd] at hd'
        cases hd'
        dsimp only
        rw [ih]

/-- The walk over a line and its end leads to the row below. -/
theorem row_of_advance?_line (hl : ¬ c.onLastLine = true)
    (h : c.advance? (c.lineRest.length + 1) = some d) :
    d.row = c.row + 1 := by
  have hpos := Cursor.position_of_advance? h
  have hfeeds : Text.lineFeeds (c.ahead.take (c.lineRest.length + 1)) = 1 := by
    rw [Cursor.ahead_of_advance?_line hl h, List.take_length_add_append,
      Text.lineFeeds_append, Text.lineFeeds,
      List.count_eq_zero_of_not_mem c.lineFeed_not_mem_lineRest]
    rfl
  have hrow := congrArg Position.row hpos
  rwa [Position.row_after, hfeeds] at hrow

theorem answers_of_ne {l : Text} (h : closing.searchEnd? l ≠ .ok none) :
    answers closing l = true := by
  unfold answers
  split
  · next hn => exact absurd hn h
  · rfl

/-- The lines are searched one after the other, up to the first one with
an answer. -/
theorem visited_closeLogged (closing : Pattern) (c : Cursor) :
    (closeLogged closing c).visited
      = ((lines c.ahead).zipIdx c.row).take
          ((lines c.ahead).findIdx (answers closing) + 1) := by
  fun_induction closeLogged closing c with
  | case1 c here f hs =>
      obtain ⟨x, hx, -⟩ := answer_eq_error_iff.1 hs
      rw [lines_ahead, List.findIdx_cons,
        answers_of_ne (by rw [hx]; exact nofun)]
      rfl
  | case2 c here n hs =>
      have hx := answer_eq_ok_iff.1 hs
      rw [lines_ahead, List.findIdx_cons,
        answers_of_ne (by rw [hx]; exact nofun)]
      rfl
  | case3 c here hs hl =>
      have ha := Cursor.ahead_of_nextLine?_eq_none (c.onLastLine_iff.1 hl)
      rw [ha, Text.lines_of_not_mem c.lineFeed_not_mem_lineRest]
      simp [here]
  | case4 c here hs hl f hf =>
      obtain ⟨e, he⟩ := exists_step_line hl
      cases hf.symm.trans he
  | case5 c here hs hl d hd _ more ih =>
      have hadv := step_eq_ok_iff.1 hd
      have ha := Cursor.ahead_of_advance?_line hl hadv
      have hnone : answers closing c.lineRest = false := by
        unfold answers
        rw [answer_eq_ok_iff.1 hs]
      have hrow := row_of_advance?_line hl hadv
      rw [ha, Text.lines_append_lineFeed _ c.lineFeed_not_mem_lineRest,
        List.findIdx_cons, hnone, List.zipIdx_cons, ← hrow]
      simp only [cond_false, List.take_succ_cons]
      rw [← ih]

-- ============================================================ the token

/-- A walk from the start of a text leads to the position of an offset,
and the rest of the text is ahead there. -/
theorem reach_start {source : Text} {o : Nat}
    (h : (Cursor.start source).advance? o = some d) :
    o ≤ source.length ∧ d.position = positionAt source o
      ∧ d.ahead = source.drop o := by
  have hle : o ≤ source.length := by
    have hsome := (Cursor.advance?_isSome_iff o _).1 (by rw [h]; rfl)
    rwa [Cursor.ahead_start] at hsome
  refine ⟨hle, ?_, ?_⟩
  · rw [Cursor.position_of_advance? h, Cursor.ahead_start]
    exact Position.after_origin_take hle
  · rw [Cursor.ahead_of_advance? h, Cursor.ahead_start]

/-- The segments are the text from the opening's end to the end of the
source. -/
theorem add_length_segments {source : Text} {k n : Nat}
    (hc : (Cursor.start source).advance? k = some c)
    (hn : n ≤ c.lineRest.length) :
    k + n + (c.lineRest.drop n ++ below (c.lines.drop (c.row + 1))).length
      = source.length := by
  obtain ⟨hk, -, hahead⟩ := reach_start hc
  have hlen := congrArg List.length hahead
  unfold Cursor.ahead at hlen
  rw [List.length_append, List.length_drop] at hlen
  rw [List.length_append, List.length_drop]
  omega

/-- A rule makes what its opening and its closing extend over. -/
theorem apply_of_closingExtent {source : Text} {opening : Pattern}
    (label : Option String) (index : Nat) {k n : Nat} {e : Cursor}
    (hc : (Cursor.start source).advance? k = some c)
    (ho : opening.matchLength? c.lineRest = .ok (some (n + 1)))
    (hadv : c.advance? (n + 1) = some e)
    (he : Scan.closingExtent closing (segments c (n + 1)) = .ok m) :
    StopsAt source index (.delimited opening closing label) c k
      (k + (n + 1) + m) := by
  have hle := Pattern.matchLength?_le ho
  have hclose := follows_close closing e
  rw [(lines_ahead_of_advance? hadv hle).1, he] at hclose
  generalize hw : close closing e = walked at hclose
  cases hclose with
  | @ok m d hd =>
      have hreach : (Cursor.start source).advance? (k + (n + 1) + m)
          = some d := by
        rw [Cursor.advance?_add, Cursor.advance?_add, hc, Option.bind_some,
          hadv, Option.bind_some, hd]
      obtain ⟨-, hstart, hahead⟩ := reach_start hc
      obtain ⟨hstop, hend, -⟩ := reach_start hreach
      have htext : c.lineRest.take (n + 1) ++ e.ahead.take m
          = slice source k (k + (n + 1) + m) := by
        rw [take_lineRest hle, Cursor.ahead_of_advance? hadv, hahead,
          ← List.take_add, ← Text.slice_eq_take_drop, Nat.add_assoc k]
      refine ⟨hstop, d, ?_, hend⟩
      unfold apply take
      simp only [Rule.opening, Rule.label, ho, answer,
        step_eq_ok_iff.2 hadv, hw, Except.map, Scan.tokenAt]
      rw [htext, hstart, hend]

/-- An answer of the closing that cannot be used ends the walk. -/
theorem apply_of_closingExtent_eq_error {opening : Pattern}
    {label : Option String} {index n : Nat} {e : Cursor}
    (ho : opening.matchLength? c.lineRest = .ok (some (n + 1)))
    (hadv : c.advance? (n + 1) = some e)
    (he : Scan.closingExtent closing (segments c (n + 1)) = .error x) :
    apply index (.delimited opening closing label) c
      = .error (.halt (.crossing x)) := by
  have hclose := follows_close closing e
  rw [(lines_ahead_of_advance? hadv (Pattern.matchLength?_le ho)).1, he]
    at hclose
  generalize hw : close closing e = walked at hclose
  cases hclose with
  | error x =>
      unfold apply take
      simp only [Rule.opening, ho, answer, step_eq_ok_iff.2 hadv, hw,
        Except.map]

-- ====================================================== lines searched

/-- The line that settles it is the first to answer. -/
theorem findIdx_of_settles (h : Settles closing ls i line)
    (hline : closing.searchEnd? line ≠ .ok none) :
    ls.findIdx (answers closing) = i := by
  induction i generalizing ls with
  | zero =>
      cases ls with
      | nil => cases h.line_eq
      | cons l more =>
          cases h.line_eq
          rw [List.findIdx_cons, answers_of_ne hline]
          rfl
  | succ i ih =>
      cases ls with
      | nil => cases h.line_eq
      | cons l more =>
          obtain ⟨hl, hmore⟩ := h.pred
          have hno : answers closing l = false := by
            unfold answers
            rw [hl]
          rw [List.findIdx_cons, hno, cond_false, ih hmore]

/-- If no line matches, none answers. -/
theorem findIdx_of_nowhere (h : ∀ l ∈ ls, closing.searchEnd? l = .ok none) :
    ls.findIdx (answers closing) = ls.length := by
  refine List.findIdx_eq_length.2 fun l hl => ?_
  unfold answers
  rw [h l hl]

/-- The walk behind an opening searches its segments in turn. -/
theorem visited_of_advance? (closing : Pattern) {n : Nat} {e : Cursor}
    (h : c.advance? n = some e) (hn : n ≤ c.lineRest.length) :
    (closeLogged closing e).visited
      = ((segments c n).zipIdx c.row).take
          ((segments c n).findIdx (answers closing) + 1) := by
  obtain ⟨hlines, hrow⟩ := lines_ahead_of_advance? h hn
  rw [visited_closeLogged, hlines, hrow]

-- ========================================================== the result

/-- The token of a delimited rule reaches to the end of the leftmost match
of the closing in the first segment that has one, and to the end of the
source if none has. The walk searches the segments in turn, each of them
at most once, and ends at the position of the token's end. -/
theorem apply_delimited (source : Text) (opening closing : Pattern)
    (label : Option String) (index k n : Nat) (c : Cursor)
    (hc : (Cursor.start source).advance? k = some c)
    (ho : opening.matchLength? c.lineRest = .ok (some n)) (hn : 0 < n) :
    ∃ e, c.advance? n = some e
      ∧ (closeLogged closing e).outcome = close closing e
      ∧ (∀ i line m, Settles closing (segments c n) i line →
          closing.LeftmostEnd line m →
          StopsAt source index (.delimited opening closing label) c k
              (k + n + passed (segments c n) i + m)
            ∧ (closeLogged closing e).visited
              = ((segments c n).zipIdx c.row).take (i + 1))
      ∧ ((∀ l ∈ segments c n, closing.searchEnd? l = .ok none) →
          StopsAt source index (.delimited opening closing label) c k
              source.length
            ∧ (closeLogged closing e).visited
              = (segments c n).zipIdx c.row)
      ∧ (∀ i line x, Settles closing (segments c n) i line →
          closing.searchEnd? line = .error x →
          apply index (.delimited opening closing label) c
              = .error (.halt (.crossing x))
            ∧ (closeLogged closing e).visited
              = ((segments c n).zipIdx c.row).take (i + 1)) := by
  obtain ⟨n, rfl⟩ := Nat.exists_eq_succ_of_ne_zero (Nat.ne_of_gt hn)
  have hle := Pattern.matchLength?_le ho
  obtain ⟨e, hadv, -⟩ := exists_step (c := c) (n := n + 1)
    (Nat.le_trans hle (length_lineRest_le c))
  have hvisited := visited_of_advance? closing hadv hle
  refine ⟨e, hadv, outcome_closeLogged closing e, ?_, ?_, ?_⟩
  · intro i line m hset hm
    have hfound := Pattern.searchEnd?_eq_some_iff.2 hm
    have hstop := apply_of_closingExtent label index hc ho hadv
      (hset.closingExtent_eq hfound)
    rw [← Nat.add_assoc] at hstop
    refine ⟨hstop, ?_⟩
    rw [hvisited, findIdx_of_settles hset (by rw [hfound]; exact nofun)]
  · intro hnone
    have hext := closingExtent_of_nowhere hnone
    have hstop := apply_of_closingExtent label index hc ho hadv hext
    refine ⟨?_, ?_⟩
    · rwa [add_length_segments hc hle] at hstop
    · rw [hvisited, findIdx_of_nowhere hnone]
      refine List.take_of_length_le ?_
      rw [List.length_zipIdx]
      exact Nat.le_succ _
  · intro i line x hset hx
    refine ⟨apply_of_closingExtent_eq_error ho hadv
      (hset.closingExtent_eq_error hx), ?_⟩
    rw [hvisited, findIdx_of_settles hset (by rw [hx]; exact nofun)]

theorem compile_slashStar :
    (Pattern.compile "/\\*".toList .none).toOption.isSome := by
  decide +kernel

theorem compile_starSlash :
    (Pattern.compile "\\*/".toList .none).toOption.isSome := by
  decide +kernel

/-- The opening of a comment. -/
def slashStar : Pattern := .known "/\\*" .none compile_slashStar

/-- The closing of a comment. -/
def starSlash : Pattern := .known "\\*/" .none compile_starSlash

/-- A comment over three lines, one of them empty: the closing is found
in the third. -/
theorem apply_delimited_comment :
    ∃ c e, (Cursor.start "a /*\n\nb*/c".toList).advance? 2 = some c
      ∧ c.advance? 2 = some e
      ∧ StopsAt "a /*\n\nb*/c".toList 0
          (.delimited slashStar starSlash (some "comment")) c 2 9
      ∧ (closeLogged starSlash e).visited
        = [([], 0), ([], 1), ("b*/c".toList, 2)] := by
  have hcursor : ((Cursor.start "a /*\n\nb*/c".toList).advance? 2).map
      (fun c => (c.row, c.lineRest, segments c 2))
      = some (0, "/*".toList, [[], [], "b*/c".toList]) := by
    decide +kernel
  obtain ⟨c, hc, hparts⟩ := Option.map_eq_some_iff.1 hcursor
  obtain ⟨hrow, hline, hsegs⟩ : c.row = 0 ∧ c.lineRest = "/*".toList
      ∧ segments c 2 = [[], [], "b*/c".toList] := by
    simpa only [Prod.mk.injEq] using hparts
  have ho : slashStar.matchLength? c.lineRest = .ok (some 2) := by
    rw [hline]
    decide +kernel
  have hset : Settles starSlash (segments c 2) 2 "b*/c".toList := by
    rw [hsegs]
    exact ⟨rfl, by decide +kernel⟩
  have hm : starSlash.LeftmostEnd "b*/c".toList 3 :=
    Pattern.searchEnd?_eq_some_iff.1 (by decide +kernel)
  obtain ⟨e, he, -, hfound, -⟩ := apply_delimited "a /*\n\nb*/c".toList
    slashStar starSlash (some "comment") 0 2 2 c hc ho (by decide)
  obtain ⟨hstop, hvisited⟩ := hfound 2 _ 3 hset hm
  rw [hsegs] at hstop
  rw [hsegs, hrow] at hvisited
  exact ⟨c, e, hc, he, hstop, hvisited⟩

end Walk

end Highlight
