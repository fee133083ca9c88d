/-
A scan can be taken up again where any token begins.

Rules see the text ahead and nothing else, so a text is cut into the same
tokens wherever it begins; only the positions are counted from there
(`Scan.run_behind`). The text behind a boundary of tokens is such a text:
its own scan makes the tokens from the boundary on, or stalls where the
scan of the whole does (`tokenize_drop`).

# Counting from a position

`Position.behind` says where a position of a part lies in the whole, and
`Position.relativeTo` takes it back. Rows and offsets are counted from
where the part begins; columns are so in the first row only.
-/
import Highlight.Proofs.Scan.Tiling

namespace Highlight

open Text (positionAt)

-- ========================================================== vocabulary

namespace Position

/-- The position in the whole, for a part that begins at `base`. -/
def behind (base p : Position) : Position where
  row := base.row + p.row
  col := if p.row = 0 then base.col + p.col else p.col
  offset := base.offset + p.offset

/-- The position as it is counted from `base` on. -/
def relativeTo (base p : Position) : Position where
  row := p.row - base.row
  col := if p.row = base.row then p.col - base.col else p.col
  offset := p.offset - base.offset

end Position

/-- The token with its positions changed. -/
def Token.moved (f : Position → Position) (t : Token) : Token :=
  { t with start := f t.start, stop := f t.stop }

/-- The stall with its position changed. -/
def Stall.moved (f : Position → Position) (s : Stall) : Stall :=
  { s with position := f s.position }

/-- The place of a stall is moved, a crossing has none. -/
def Halt.moved (f : Position → Position) : Halt → Halt
  | .stall s => .stall (s.moved f)
  | .crossing c => .crossing c

/-- The tokens that were made of a source, also if the scan came to no
end. -/
def Scan.made (rules : List Rule) (source : Text) : List Token :=
  (Walk.scan rules source (.start source)).1

-- =========================================================== positions

namespace Position

/-- Behind the origin positions are what they are. -/
theorem behind_origin (base : Position) : base.behind .origin = base := rfl

/-- Going on one character commutes with moving. -/
theorem behind_next (base p : Position) (c : Char) :
    base.behind (p.next c) = (base.behind p).next c := by
  unfold next behind
  by_cases hc : c = '\n'
  · simp only [hc, ↓reduceIte, Nat.succ_ne_zero]
    rfl
  · by_cases hrow : p.row = 0
    · simp only [hc, hrow, ↓reduceIte]
      rfl
    · simp only [hc, hrow, ↓reduceIte]
      rfl

/-- So does going on by a text. -/
theorem behind_after (base p : Position) (t : Text) :
    base.behind (p.after t) = (base.behind p).after t := by
  induction t generalizing p with
  | nil => rfl
  | cons c t ih => rw [after_cons, ih, behind_next, after_cons]

/-- Moving a position there and back changes nothing. -/
theorem relativeTo_behind (base p : Position) :
    base.relativeTo (base.behind p) = p := by
  obtain ⟨row, col, offset⟩ := p
  unfold behind relativeTo
  by_cases hrow : row = 0
  · simp [hrow]
  · simp [hrow]

end Position

/-- The same of both positions of a token. -/
theorem Token.relativeTo_behind (base : Position) (t : Token) :
    (t.moved base.behind).moved base.relativeTo = t := by
  unfold moved
  rw [Position.relativeTo_behind, Position.relativeTo_behind]

/-- The same of the place where a scan stops. -/
theorem Halt.relativeTo_behind (base : Position) (h : Halt) :
    (h.moved base.behind).moved base.relativeTo = h := by
  cases h with
  | stall s =>
      show Halt.stall ⟨s.rule, base.relativeTo (base.behind s.position)⟩ = _
      rw [Position.relativeTo_behind]
  | crossing c => rfl

-- ================================================================ runs

namespace Scan

variable {rules : List Rule} {source : Text}

/-- Where a text begins matters for positions only. -/
theorem run_behind (rules : List Rule) (base p : Position) (t : Text) :
    run rules (base.behind p) t
      = ((run rules p t).1.map (.moved base.behind),
        (run rules p t).2.map (.moved base.behind)) := by
  induction hl : t.length using Nat.strongRecOn generalizing p t with
  | ind l ih =>
      by_cases ht : t = []
      · rw [ht, run_nil, run_nil]
        rfl
      · cases hc : choose rules t with
        | stall k =>
            rw [run_of_stall ht hc, run_of_stall ht hc]
            rfl
        | crossing x =>
            rw [run_of_crossing ht hc, run_of_crossing ht hc]
            rfl
        | take label n =>
            have hpos := length_pos_of_choose hc
            have hlen := List.length_pos_iff.2 ht
            have hrest := ih (t.drop n).length
              (by rw [List.length_drop]; omega) (p.after (t.take n)) _ rfl
            rw [run_of_take ht hc, run_of_take ht hc,
              ← Position.behind_after, hrest]
            rfl

/-- The scan of a text alone, by what it does with the text as a part. -/
theorem run_origin_eq (rules : List Rule) (base : Position) (t : Text) :
    run rules .origin t
      = ((run rules base t).1.map (.moved base.relativeTo),
        (run rules base t).2.map (.moved base.relativeTo)) := by
  have hrun := run_behind rules base .origin t
  rw [Position.behind_origin] at hrun
  rw [hrun]
  simp only [List.map_map, Option.map_map]
  refine Prod.ext ?_ ?_
  · show _ = List.map (fun t => (Token.moved base.behind t).moved _) _
    simp only [Token.relativeTo_behind, List.map_id']
  · show _ = Option.map (fun h => (Halt.moved base.behind h).moved _) _
    simp only [Halt.relativeTo_behind, Option.map_id']

/-- From where one of its tokens begins, or from its end, a path goes on
with the tokens from there on. -/
theorem Path.dropWhile {a e o : Nat} {ts : List Token}
    (h : Path rules source a ts e)
    (ho : (∃ t ∈ ts, t.start.offset = o) ∨ o = e) :
    Path rules source o (ts.dropWhile fun t => t.start.offset < o) e := by
  induction h with
  | nil e =>
      rcases ho with ⟨t, ht, -⟩ | rfl
      · cases ht
      · exact .nil _
  | @cons a e t ts hlex hts ih =>
      have hstart := hlex.start_offset
      by_cases hao : a = o
      · subst hao
        rw [List.dropWhile_cons_of_neg (by simp [hstart])]
        exact .cons hlex hts
      · have hrest : (∃ u ∈ ts, u.start.offset = o) ∨ o = e := by
          refine ho.imp_left fun ⟨u, hu, huo⟩ => ?_
          rcases List.mem_cons.1 hu with rfl | hu
          · exact absurd (hstart.symm.trans huo) hao
          · exact ⟨u, hu, huo⟩
        have hlt : a < o := by
          obtain ⟨m, hm, -, heq⟩ := hlex.bounds
          have hstop : t.stop.offset = a + m := by rw [heq]; rfl
          rcases hrest with ⟨u, hu, rfl⟩ | rfl
          · have := hts.le_start hu
            omega
          · have := hts.le
            omega
        rw [List.dropWhile_cons_of_pos (by simpa [hstart] using hlt)]
        exact ih hrest

/-- From a boundary of its tokens on, a scan is the scan of the text
behind it, with positions counted from there. -/
theorem run_drop {e o : Nat} {ts : List Token} {halt : Option Halt}
    (hp : Path rules source 0 ts e) (hs : Stops rules source e halt)
    (ho : (∃ t ∈ ts, t.start.offset = o) ∨ o = e) :
    run rules .origin (source.drop o)
      = ((ts.dropWhile fun t => t.start.offset < o).map
          (.moved (positionAt source o).relativeTo),
        halt.map (.moved (positionAt source o).relativeTo)) := by
  rw [run_origin_eq rules (positionAt source o),
    run_of_path (hp.dropWhile ho),
    run_of_stops hs, List.append_nil]

/-- The tokens that are made are those of the run from the start. -/
theorem made_eq_run (rules : List Rule) (source : Text) :
    made rules source = (run rules .origin source).1 := by
  unfold made
  rw [Walk.scan_start]

end Scan

-- ========================================================== the result

/-- A scan can be taken up again at every boundary of its tokens: the text
from there on has the tokens from there on, and no others, with positions
counted from the boundary. If the scan stalls, so does that of the text
behind any boundary before, at the same rule and the same place. -/
theorem tokenize_drop (rules : List Rule) (source : Text) :
    (∀ ts, tokenize rules source = .ok ts →
        ∀ o, (∃ t ∈ ts, t.start.offset = o) ∨ o = source.length →
          tokenize rules (source.drop o)
            = .ok ((ts.dropWhile fun t => t.start.offset < o).map
              (.moved (positionAt source o).relativeTo)))
      ∧ ∀ s, tokenize rules source = .error (.stall s) →
        ∀ o, (∃ t ∈ Scan.made rules source, t.start.offset = o)
            ∨ o = s.position.offset →
          tokenize rules (source.drop o)
            = .error (.stall (s.moved (positionAt source o).relativeTo)) := by
  refine ⟨fun ts h o ho => ?_, fun s h o ho => ?_⟩
  · have hrun := Scan.run_drop (Scan.tokenize_ok_iff.1 h) (.done rfl) ho
    exact tokenize_eq_ok_iff.2 hrun
  · obtain ⟨ts, e, hp, hs⟩ := Scan.tokenize_error_iff.1 h
    have he : s.position.offset = e := by
      cases hs with
      | stall => rfl
    rw [Scan.made_eq_run, Scan.run_origin_iff.2 ⟨e, hp, hs⟩, he] at ho
    have hrun := Scan.run_drop hp hs ho
    rw [tokenize_eq_error_iff, hrun]
    rfl

/-- A scan taken up within a line, and one that stalls on its second
line. -/
theorem tokenize_drop_stalled :
    tokenize Language.css.rules ":b\n/**/".toList
        = .ok [⟨some "value", ":b".toList, ⟨0, 0, 0⟩, ⟨0, 2, 2⟩⟩,
          ⟨none, "\n".toList, ⟨0, 2, 2⟩, ⟨1, 0, 3⟩⟩,
          ⟨some "comment", "/**/".toList, ⟨1, 0, 3⟩, ⟨1, 4, 7⟩⟩]
      ∧ tokenize [Language.delimited "a" "b" "pair",
            Language.simple "x*" "run"] "xb".toList
        = .error (.stall ⟨1, ⟨0, 1, 1⟩⟩) := by
  have hcss : tokenize Language.css.rules "a:b\n/**/".toList
      = .ok [⟨some "keyword", "a".toList, ⟨0, 0, 0⟩, ⟨0, 1, 1⟩⟩,
        ⟨some "value", ":b".toList, ⟨0, 1, 1⟩, ⟨0, 3, 3⟩⟩,
        ⟨none, "\n".toList, ⟨0, 3, 3⟩, ⟨1, 0, 4⟩⟩,
        ⟨some "comment", "/**/".toList, ⟨1, 0, 4⟩, ⟨1, 4, 8⟩⟩] := by
    decide +kernel
  have hrun : tokenize [Language.delimited "a" "b" "pair",
        Language.simple "x*" "run"] "a\nbxb".toList
      = .error (.stall ⟨1, ⟨1, 2, 4⟩⟩) := by
    decide +kernel
  exact ⟨(tokenize_drop _ _).1 _ hcss 1 (.inl (by decide)),
    (tokenize_drop _ _).2 _ hrun 3 (.inl (by decide +kernel))⟩

end Highlight
