/-
The numbers in the gutter, and the rows on which tokens have characters.

The tokens of a finished scan have their characters on the rows of the
source, in order (`Path.flatMap_rows`), and these are all rows up to the
last one with a character. The gutter has a number for every line feed.
That is a number for each of these rows if the source ends with a line
feed or has none. Otherwise the last row ends without one and is left out
(`gutter_numbers_rows`).
-/
import Highlight.Html.Page
import Highlight.Proofs.Scan.Tiling
import Highlight.Proofs.Text.Column

namespace Highlight

open Text (positionAt slice lineFeeds)

-- ========================================================== vocabulary

/-- The rows of the characters of a token. A line feed stands on the row
that it ends. -/
def Token.rows (t : Token) : List Nat :=
  (List.range t.text.length).map fun i => (t.start.after (t.text.take i)).row

namespace Html

/-- The gutter goes from one to the number of lines. The tokens have
characters on all rows up to the last one, and that is numbered unless it
is neither ended by a line feed nor the only one. -/
structure IsNumbered (source : Text) (ts : List Token) (last : Nat) :
    Prop where
  gutter_eq : gutter source
    = "<div class=\"line-numbers\">".toList
      ++ Text.join "<br />".toList ((List.range' 1 (lineCount source)).map
        fun n => (toString n).toList) ++ "</div>".toList
  rows_iff : ∀ row, (∃ t ∈ ts, row ∈ t.rows) ↔ row ≤ last
  last_eq : ts.getLast?.bind (·.rows.getLast?) = some last
  lineCount_eq : lineCount source
    = if '\n' ∈ source ∧ source.getLast? ≠ some '\n' then last else last + 1

end Html

-- ================================================================ rows

namespace Text

variable {t : Text} {row : Nat}

/-- No row is left out on the way. -/
theorem exists_row_eq (h : row ≤ lineFeeds t) :
    ∃ o ≤ t.length, (positionAt t o).row = row := by
  induction t generalizing row with
  | nil => exact ⟨0, Nat.le_refl 0, (Nat.le_zero.1 h).symm⟩
  | cons c t ih =>
      cases row with
      | zero => exact ⟨0, Nat.zero_le _, rfl⟩
      | succ row =>
          by_cases hc : c = '\n'
          · subst hc
            have hrow : row ≤ lineFeeds t := by
              simpa [lineFeeds] using h
            obtain ⟨o, ho, hat⟩ := ih hrow
            refine ⟨o + 1, Nat.succ_le_succ ho, ?_⟩
            simpa [positionAt, lineFeeds] using hat
          · have hrow : row + 1 ≤ lineFeeds t := by
              simpa [lineFeeds, hc] using h
            obtain ⟨o, ho, hat⟩ := ih hrow
            refine ⟨o + 1, Nat.succ_le_succ ho, ?_⟩
            simpa [positionAt, lineFeeds, hc] using hat

end Text

namespace Scan

variable {rules : List Rule} {source : Text} {o e : Nat} {t : Token}
  {ts : List Token}

/-- The characters of a token stand on their rows of the source. -/
theorem Lexed.rows_eq (h : Lexed rules source o t) :
    t.rows = (List.range' o (t.stop.offset - o)).map
      fun i => (positionAt source i).row := by
  obtain ⟨m, hm, hle, ht⟩ := h.bounds
  have hlen : (slice source o (o + m)).length = m := Text.length_slice hle
  rw [ht]
  show (List.range (slice source o (o + m)).length).map _
    = (List.range' o (o + m - o)).map _
  rw [hlen, Nat.add_sub_cancel_left, List.range'_eq_map_range, List.map_map]
  refine List.map_congr_left fun i hi => ?_
  have hi := List.mem_range.1 hi
  show ((positionAt source o).after ((slice source o (o + m)).take i)).row
    = (positionAt source (o + i)).row
  rw [Text.slice_eq_take_drop, List.take_take, Nat.min_eq_left (by omega),
    Position.after_positionAt (by omega)]

/-- The tokens that lead from one offset to another have their characters
on the rows in between. -/
theorem Path.flatMap_rows (h : Path rules source o ts e) :
    ts.flatMap Token.rows = (List.range' o (e - o)).map
      fun i => (positionAt source i).row := by
  induction h with
  | nil o => simp
  | @cons o e t ts hlex hts ih =>
      have hle := hts.le
      obtain ⟨m, hm, -, ht⟩ := hlex.bounds
      have hstop : t.stop.offset = o + m := by
        rw [ht]
        rfl
      rw [List.flatMap_cons, hlex.rows_eq, ih, ← List.map_append, hstop]
      rw [hstop] at hle
      rw [show e - o = (o + m - o) + (e - (o + m)) by omega,
        ← List.range'_append_1]
      congr 3
      omega

/-- The last character of a last token is that of the source. -/
theorem Lexed.getLast?_rows (h : Lexed rules source o t)
    (hstop : t.stop.offset = source.length) :
    t.rows.getLast? = some (positionAt source (source.length - 1)).row := by
  obtain ⟨m, hm, -, ht⟩ := h.bounds
  have hlen : source.length = o + m := by
    rw [← hstop, ht]
    rfl
  rw [h.rows_eq, hstop, List.getLast?_map, hlen, Nat.add_sub_cancel_left,
    List.getLast?_range', if_neg (Nat.ne_of_gt hm)]
  exact congrArg (fun i => some (positionAt source i).row) (by omega)

end Scan

-- ============================================================== numbers

namespace Html

variable {source : Text}

theorem gutter_eq (source : Text) :
    gutter source
      = "<div class=\"line-numbers\">".toList
        ++ Text.join "<br />".toList ((List.range' 1 (lineCount source)).map
          fun n => (toString n).toList) ++ "</div>".toList := by
  unfold gutter
  rw [List.range'_eq_map_range, List.map_map]
  simp only [Function.comp_def, Nat.add_comm 1]

/-- The line feeds of a source are those before its last character, and
perhaps this one. -/
theorem lineFeeds_eq (h : source ≠ []) :
    lineFeeds source = (positionAt source (source.length - 1)).row
      + if source.getLast? = some '\n' then 1 else 0 := by
  have hsplit := List.dropLast_append_getLast h
  rw [positionAt, ← List.dropLast_eq_take, List.getLast?_eq_some_getLast h]
  conv_lhs => rw [← hsplit, Text.lineFeeds_append]
  by_cases hlast : source.getLast h = '\n'
  · simp [hlast, lineFeeds]
  · simp [hlast, lineFeeds]

theorem lineCount_eq (h : source ≠ []) :
    lineCount source
      = if '\n' ∈ source ∧ source.getLast? ≠ some '\n' then
          (positionAt source (source.length - 1)).row
        else (positionAt source (source.length - 1)).row + 1 := by
  have hfeeds := lineFeeds_eq h
  unfold lineCount
  by_cases hlast : source.getLast? = some '\n'
  · rw [if_pos hlast] at hfeeds
    rw [if_neg fun hand => hand.2 hlast, hfeeds]
    omega
  · rw [if_neg hlast, Nat.add_zero] at hfeeds
    by_cases hmem : '\n' ∈ source
    · have hpos : 0 < lineFeeds source := List.count_pos_iff.2 hmem
      rw [if_pos ⟨hmem, hlast⟩]
      omega
    · have hzero : lineFeeds source = 0 := List.count_eq_zero.2 hmem
      rw [if_neg fun hand => hmem hand.1]
      omega

/-- The gutter and the tokens of a finished scan. -/
theorem gutter_numbers_rows {rules : List Rule} {ts : List Token}
    (hne : source ≠ []) (h : tokenize rules source = .ok ts) :
    ∃ last, IsNumbered source ts last := by
  have hpath := Scan.tokenize_ok_iff.1 h
  have hlen := List.length_pos_iff.2 hne
  have hrows := hpath.flatMap_rows
  refine ⟨(positionAt source (source.length - 1)).row, gutter_eq source,
    fun row => ?_, ?_, lineCount_eq hne⟩
  · rw [← List.mem_flatMap, hrows, List.mem_map]
    constructor
    · rintro ⟨o, ho, rfl⟩
      rw [List.mem_range'_1] at ho
      have hmono := Text.row_mono (t := source) (o := o)
        (n := source.length - 1 - o)
      rwa [Nat.add_sub_cancel' (by omega)] at hmono
    · intro hrow
      obtain ⟨o, ho, hat⟩ := Text.exists_row_eq hrow
      rw [List.length_take] at ho
      refine ⟨o, List.mem_range'_1.2 ⟨Nat.zero_le o, by omega⟩, ?_⟩
      rw [← hat]
      simp only [positionAt, List.take_take]
      rw [Nat.min_eq_left (by omega)]
  · have hts : ts ≠ [] := by
      rw [ne_eq, hpath.eq_nil_iff]
      omega
    have hlast := List.getLast?_eq_some_getLast hts
    rw [hlast, Option.bind_some]
    exact (hpath.exists_lexed (List.getLast_mem hts)).getLast?_rows
      (hpath.last_stop hlast)

/-- Three rows, the second of them empty. -/
theorem gutter_numbers_rows_blank :
    ∃ ts, tokenize [] "a\n\nb\n".toList = .ok ts
      ∧ IsNumbered "a\n\nb\n".toList ts 2 := by
  obtain ⟨ts, hts⟩ : ∃ ts, tokenize [] "a\n\nb\n".toList = .ok ts :=
    Scan.exists_tokenize (fun _ hr => absurd hr List.not_mem_nil)
      (fun _ hr => absurd hr List.not_mem_nil) _
  obtain ⟨last, h⟩ := gutter_numbers_rows (by decide) hts
  have hlast : lineCount "a\n\nb\n".toList = last + 1 := h.lineCount_eq
  have hthree : lineCount "a\n\nb\n".toList = 3 := by decide
  obtain rfl : last = 2 := by omega
  exact ⟨ts, hts, h⟩

/-- A last row without a line feed has a character and no number. -/
theorem gutter_misses_last_row :
    ∃ ts, tokenize [] "a\nb".toList = .ok ts
      ∧ gutter "a\nb".toList = "<div class=\"line-numbers\">1</div>".toList
      ∧ ∃ t ∈ ts, 1 ∈ t.rows := by
  refine ⟨[⟨none, ['a'], ⟨0, 0, 0⟩, ⟨0, 1, 1⟩⟩,
    ⟨none, ['\n'], ⟨0, 1, 1⟩, ⟨1, 0, 2⟩⟩,
    ⟨none, ['b'], ⟨1, 0, 2⟩, ⟨1, 1, 3⟩⟩], ?_, ?_, ?_⟩
  · decide +kernel
  · decide +kernel
  · decide +kernel

end Html

end Highlight
