/-
The entries of a source by offset: every entry stands for a stretch of the
source within one line.

`pieces_eq` and `entries_eq` read the encoding of tokens off their
stretches. The stretches of a token lie in it one after another and cover
all of it but its line feeds; those of a row of tokens do so for the
tokens with a type.

# Columns

Which columns an entry takes is a matter of offsets alone: it takes the
columns of the characters of its stretch, and no others
(`covers_entry_iff`).
-/
import Highlight.Semantic
import Highlight.Proofs.Scan.Tiling
import Highlight.Proofs.Text.Column

namespace Highlight.Semantic

open Text (positionAt slice restAt column16 units16 below)

variable {source : Text}

-- ========================================================== vocabulary

/-- A part of a source, with the number of its type. -/
structure Stretch where
  start : Nat
  stop : Nat
  type : Nat

namespace Stretch

/-- The stretch lies within one line of the source. -/
structure Valid (source : Text) (s : Stretch) : Prop where
  lt : s.start < s.stop
  le : s.stop ≤ source.length
  clean : '\n' ∉ slice source s.start s.stop

/-- The entry of a stretch. -/
def entry (source : Text) (s : Stretch) : Entry where
  line := (positionAt source s.start).row
  start := column16 source s.start
  length := units16 (slice source s.start s.stop)
  type := s.type

end Stretch

/-- The stretches of pieces that lie one after the other from an offset
on, with a line feed between neighbours. -/
def stretches (type : Nat) (o : Nat) : List Text → List Stretch
  | [] => []
  | [] :: more => stretches type (o + 1) more
  | (_ :: p) :: more =>
    ⟨o, o + (p.length + 1), type⟩
      :: stretches type (o + (p.length + 1) + 1) more

/-- The stretches of a token. -/
def tokenStretches (t : Token) : List Stretch :=
  match typeOf? t.label with
  | none => []
  | some type => stretches type t.start.offset (Text.lines t.text)

/-- The entry takes a column of a row. -/
def Entry.Covers (e : Entry) (row column : Nat) : Prop :=
  e.line = row ∧ e.start ≤ column ∧ column < e.start + e.length

instance (e : Entry) (row column : Nat) : Decidable (e.Covers row column) :=
  inferInstanceAs (Decidable (_ ∧ _ ∧ _))

-- =============================================================== pieces

/-- The text of pieces from an offset on. -/
def Lies (source : Text) (o : Nat) (p : Text) (more : List Text) : Prop :=
  (p ++ below more) <+: source.drop o

/-- Behind a piece and a line feed lies the next piece. -/
theorem lies_next {o : Nat} {p q : Text} {more : List Text}
    (h : Lies source o p (q :: more)) :
    Lies source (o + p.length + 1) q more := by
  obtain ⟨r, hr⟩ := h
  refine ⟨r, ?_⟩
  rw [Nat.add_assoc, ← List.drop_drop, ← hr, Text.below_cons]
  simp [List.drop_append]

/-- A piece is the part of the source at its place. -/
theorem slice_of_lies {o : Nat} {p : Text} {more : List Text}
    (h : Lies source o p more) : slice source o (o + p.length) = p := by
  obtain ⟨r, hr⟩ := h
  rw [Text.slice_eq_take_drop, ← hr]
  simp

/-- Pieces that are not empty end within the source. -/
theorem length_of_lies {o : Nat} {p : Text} {more : List Text}
    (h : Lies source o p more) :
    o + (p ++ below more).length ≤ source.length ∨ p ++ below more = [] := by
  have hle := h.length_le
  rw [List.length_drop] at hle
  by_cases hnil : p ++ below more = []
  · exact Or.inr hnil
  · have := List.length_pos_iff.2 hnil
    omega

/-- So does a first piece that is not empty. -/
theorem le_of_lies {o : Nat} {c : Char} {p : Text} {more : List Text}
    (h : Lies source o (c :: p) more) :
    o + (p.length + 1) ≤ source.length := by
  rcases length_of_lies h with h | h
  · rw [List.length_append, List.length_cons] at h
    omega
  · cases h

/-- Behind a piece and its line feed the next row begins. -/
theorem positionAt_next {o : Nat} {p q : Text} {more : List Text}
    (h : Lies source o p (q :: more)) (hp : '\n' ∉ p) :
    positionAt source (o + p.length + 1)
      = ⟨(positionAt source o).row + 1, 0, o + p.length + 1⟩ := by
  have hle : o + (p.length + 1) ≤ source.length := by
    rcases length_of_lies h with h | h
    · rw [List.length_append, Text.below_cons, List.length_cons] at h
      omega
    · simp at h
  have htake : (source.drop o).take (p.length + 1) = p ++ ['\n'] := by
    obtain ⟨r, hr⟩ := h
    rw [← hr, Text.below_cons, List.append_assoc, List.take_length_add_append]
    rfl
  have hpos := Position.after_positionAt hle
  rw [htake, Position.after_append, Position.after_of_not_mem _ hp] at hpos
  rw [Nat.add_assoc, ← hpos]
  rfl

/-- The part of its line before an offset, as the encoding finds it. -/
theorem upTo_position (source : Text) {o : Nat} (h : o ≤ source.length) :
    ∃ line, rowAt? (Text.lines source) (positionAt source o).row = some line
      ∧ units16 (upTo line (positionAt source o).col) = column16 source o := by
  refine ⟨slice source (Text.lineStart source o) o ++ restAt source o,
    ?_, ?_⟩
  · unfold rowAt?
    rw [if_pos (Int.natCast_nonneg _), Int.toNat_natCast]
    exact Text.line_of_offset source o
  · unfold upTo
    rw [if_pos (Int.natCast_nonneg _), Int.toNat_natCast, Text.take_col h]
    rfl

/-- A piece with text becomes the entry of its stretch. -/
theorem pieces_cons (type : Nat) {o : Nat} {c : Char} {p : Text}
    {more : List Text} (h : Lies source o (c :: p) more) :
    pieces (Text.lines source) type (positionAt source o).row
        (positionAt source o).col ((c :: p) :: more)
      = (pieces (Text.lines source) type ((positionAt source o).row + 1 : Nat)
          (0 : Nat) more).map
        (Stretch.entry source ⟨o, o + (p.length + 1), type⟩ :: ·) := by
  have hle := le_of_lies h
  obtain ⟨line, hline, hcol⟩ := upTo_position source (o := o) (by omega)
  have hslice := slice_of_lies h
  rw [List.length_cons] at hslice
  unfold Stretch.entry
  rw [hslice, ← hcol, Option.map_eq_bind]
  simp only [pieces, hline]
  rfl

/-- Pieces of the source become the entries of their stretches. -/
theorem pieces_eq (type : Nat) {o : Nat} {p : Text} {more : List Text}
    (h : Lies source o p more) (hclean : ∀ l ∈ p :: more, '\n' ∉ l) :
    pieces (Text.lines source) type (positionAt source o).row
        (positionAt source o).col (p :: more)
      = some ((stretches type o (p :: more)).map (·.entry source)) := by
  induction more generalizing o p with
  | nil =>
      cases p with
      | nil => rfl
      | cons c p =>
          rw [pieces_cons type h]
          rfl
  | cons q more ih =>
      have hih := ih (lies_next h)
        fun l hl => hclean l (List.mem_cons_of_mem _ hl)
      rw [positionAt_next h (hclean p List.mem_cons_self)] at hih
      cases p with
      | nil => exact hih
      | cons c p =>
          rw [pieces_cons type h, hih]
          rfl

-- ================================================ stretches of pieces

/-- A piece of one line is a stretch of the source. -/
theorem valid_of_lies (type : Nat) {o : Nat} {c : Char} {p : Text}
    {more : List Text} (h : Lies source o (c :: p) more)
    (hp : '\n' ∉ c :: p) :
    (⟨o, o + (p.length + 1), type⟩ : Stretch).Valid source where
  lt := Nat.lt_add_of_pos_right (Nat.succ_pos _)
  le := le_of_lies h
  clean := by
    have hslice := slice_of_lies h
    rw [List.length_cons] at hslice
    rw [hslice]
    exact hp

/-- The stretches of pieces lie in them, each within a line. -/
theorem mem_stretches {type o : Nat} {p : Text} {more : List Text}
    {s : Stretch} (h : Lies source o p more)
    (hclean : ∀ l ∈ p :: more, '\n' ∉ l)
    (hs : s ∈ stretches type o (p :: more)) :
    s.Valid source ∧ s.type = type ∧ o ≤ s.start
      ∧ s.stop ≤ o + (p ++ below more).length := by
  -- By induction on the pieces: an empty one has no stretch, and each of
  -- the others begins behind a line feed.
  induction more generalizing o p with
  | nil =>
      cases p with
      | nil => cases hs
      | cons c p =>
          simp only [stretches, List.mem_singleton] at hs
          subst hs
          exact ⟨valid_of_lies type h (hclean _ List.mem_cons_self), rfl,
            Nat.le_refl o, by simp⟩
  | cons q more ih =>
      have hnext := lies_next h
      have hclean' : ∀ l ∈ q :: more, '\n' ∉ l :=
        fun l hl => hclean l (List.mem_cons_of_mem _ hl)
      rw [Text.below_cons, List.length_append, List.length_cons]
      cases p with
      | nil =>
          simp only [stretches] at hs
          obtain ⟨hv, ht, hlo, hhi⟩ := ih hnext hclean' hs
          simp only [List.length_nil] at hlo hhi ⊢
          exact ⟨hv, ht, by omega, by omega⟩
      | cons c p =>
          simp only [stretches, List.mem_cons] at hs
          rcases hs with rfl | hs
          · refine ⟨valid_of_lies type h (hclean _ List.mem_cons_self), rfl,
              Nat.le_refl o, ?_⟩
            rw [List.length_cons]
            show o + (p.length + 1) ≤ _
            omega
          · rw [List.length_cons] at hnext
            obtain ⟨hv, ht, hlo, hhi⟩ := ih hnext hclean' hs
            rw [List.length_cons]
            exact ⟨hv, ht, by omega, by omega⟩

/-- They lie one after another. -/
theorem pairwise_stretches {type o : Nat} {p : Text} {more : List Text}
    (h : Lies source o p more) (hclean : ∀ l ∈ p :: more, '\n' ∉ l) :
    (stretches type o (p :: more)).Pairwise fun s u => s.stop ≤ u.start := by
  induction more generalizing o p with
  | nil =>
      cases p with
      | nil => exact .nil
      | cons c p => exact List.pairwise_singleton _ _
  | cons q more ih =>
      have hnext := lies_next h
      have hclean' : ∀ l ∈ q :: more, '\n' ∉ l :=
        fun l hl => hclean l (List.mem_cons_of_mem _ hl)
      cases p with
      | nil => exact ih hnext hclean'
      | cons c p =>
          rw [List.length_cons] at hnext
          refine List.pairwise_cons.2 ⟨fun u hu => ?_, ih hnext hclean'⟩
          have hlo := (mem_stretches hnext hclean' hu).2.2.1
          show o + (p.length + 1) ≤ u.start
          omega

/-- Every character of the pieces but the line feeds between them lies in
a stretch. -/
theorem exists_stretch (type : Nat) {o x : Nat} {p : Text} {more : List Text}
    (h : Lies source o p more) (hlo : o ≤ x)
    (hhi : x < o + (p ++ below more).length) (hx : source[x]? ≠ some '\n') :
    ∃ s ∈ stretches type o (p :: more), s.start ≤ x ∧ x < s.stop := by
  induction more generalizing o p with
  | nil =>
      cases p with
      | nil =>
          simp at hhi
          omega
      | cons c p =>
          refine ⟨_, List.mem_singleton_self _, hlo, ?_⟩
          simpa using hhi
  | cons q more ih =>
      have hnext := lies_next h
      rw [Text.below_cons, List.length_append, List.length_cons] at hhi
      -- In the first piece, at the line feed behind it, or further on.
      rcases Nat.lt_trichotomy x (o + p.length) with hlt | heq | hgt
      · cases p with
        | nil =>
            simp only [List.length_nil, Nat.add_zero] at hlt
            omega
        | cons c p => exact ⟨_, List.mem_cons_self, hlo, hlt⟩
      · exfalso
        apply hx
        obtain ⟨r, hr⟩ := h
        have hget : (source.drop o)[p.length]? = some '\n' := by
          rw [← hr, Text.below_cons, List.append_assoc,
            List.getElem?_append_right (Nat.le_refl _), Nat.sub_self]
          rfl
        rw [heq, ← hget, List.getElem?_drop]
      · obtain ⟨s, hs, hin⟩ := ih hnext (by omega) (by omega)
        cases p with
        | nil => exact ⟨s, hs, hin⟩
        | cons c p => exact ⟨s, List.mem_cons_of_mem _ hs, hin⟩

-- ================================================ stretches of tokens

open Scan (Lexed)

variable {rules : List Rule}

/-- The lines of a token lie in the source, from its start to its stop. -/
theorem lies_of_lexed {o : Nat} {t : Token} (h : Lexed rules source o t) :
    ∃ p more, Text.lines t.text = p :: more ∧ Lies source o p more
      ∧ o + (p ++ below more).length = t.stop.offset := by
  obtain ⟨m, -, hle, ht⟩ := h.bounds
  obtain ⟨more, hmore⟩ := Text.lines_eq_cons t.text
  have hjoin := Text.firstLine_append_below hmore
  have htext : t.text = (source.drop o).take m := by
    rw [ht, ← Text.slice_eq_take_drop]
    rfl
  refine ⟨_, more, hmore, ?_, ?_⟩
  · unfold Lies
    rw [hjoin, htext]
    exact List.take_prefix _ _
  · rw [hjoin, htext, List.length_take, List.length_drop, ht]
    show o + min m (source.length - o) = o + m
    omega

/-- Lines have no line feeds. -/
theorem clean_of_lines {t : Text} {p : Text} {more : List Text}
    (h : Text.lines t = p :: more) : ∀ l ∈ p :: more, '\n' ∉ l := by
  intro l hl
  rw [← h] at hl
  exact Text.lineFeed_not_mem_of_mem_lines hl

/-- The stretches of a token are those of its lines. -/
theorem tokenStretches_eq {o type : Nat} {t : Token} {p : Text}
    {more : List Text} (h : Lexed rules source o t)
    (hl : Text.lines t.text = p :: more) (ht : typeOf? t.label = some type) :
    tokenStretches t = stretches type o (p :: more) := by
  unfold tokenStretches
  rw [ht, hl, h.start_offset]

/-- A stretch of a token lies in it and has the type of its label. -/
theorem mem_tokenStretches {o : Nat} {t : Token} {s : Stretch}
    (h : Lexed rules source o t) (hs : s ∈ tokenStretches t) :
    s.Valid source ∧ typeOf? t.label = some s.type ∧ o ≤ s.start
      ∧ s.stop ≤ t.stop.offset := by
  obtain ⟨p, more, hl, hlies, hlen⟩ := lies_of_lexed h
  cases ht : typeOf? t.label with
  | none =>
      unfold tokenStretches at hs
      rw [ht] at hs
      cases hs
  | some type =>
      rw [tokenStretches_eq h hl ht] at hs
      obtain ⟨hv, hty, hlo, hhi⟩ :=
        mem_stretches hlies (clean_of_lines hl) hs
      exact ⟨hv, by rw [hty], hlo, by omega⟩

/-- The stretches of the tokens on a path lie in the tokens. -/
theorem mem_pathStretches {o e : Nat} {ts : List Token} {s : Stretch}
    (h : Scan.Path rules source o ts e) (hs : s ∈ ts.flatMap tokenStretches) :
    o ≤ s.start ∧ ∃ t ∈ ts, Lexed rules source t.start.offset t
      ∧ s ∈ tokenStretches t := by
  induction h with
  | nil o => cases hs
  | cons hlex hts ih =>
      rw [List.flatMap_cons, List.mem_append] at hs
      rcases hs with hs | hs
      · have hlo := (mem_tokenStretches hlex hs).2.2.1
        refine ⟨hlo, _, List.mem_cons_self, ?_, hs⟩
        rw [hlex.start_offset]
        exact hlex
      · obtain ⟨hlo, t, ht, hlt, hst⟩ := ih hs
        obtain ⟨m, -, -, heq⟩ := hlex.bounds
        rw [heq] at hlo
        exact ⟨Nat.le_trans (Nat.le_add_right _ m) hlo, t,
          List.mem_cons_of_mem _ ht, hlt, hst⟩

/-- The stretches of a whole scan follow each other. -/
theorem pairwise_pathStretches {o e : Nat} {ts : List Token}
    (h : Scan.Path rules source o ts e) :
    (ts.flatMap tokenStretches).Pairwise fun s u => s.stop ≤ u.start := by
  induction h with
  | nil o => exact .nil
  | @cons o e t ts hlex hts ih =>
      rw [List.flatMap_cons, List.pairwise_append]
      refine ⟨?_, ih, fun s hs u hu => ?_⟩
      · obtain ⟨p, more, hl, hlies, -⟩ := lies_of_lexed hlex
        cases ht : typeOf? t.label with
        | none =>
            unfold tokenStretches
            rw [ht]
            exact .nil
        | some type =>
            rw [tokenStretches_eq hlex hl ht]
            exact pairwise_stretches hlies (clean_of_lines hl)
      · have hhi := (mem_tokenStretches hlex hs).2.2.2
        have hlo := (mem_pathStretches hts hu).1
        omega

/-- The tokens on a path become the entries of their stretches. -/
theorem entries_eq {o e : Nat} {ts : List Token}
    (h : Scan.Path rules source o ts e) :
    entries (Text.lines source) (ts.map Mark.ofToken)
      = some ((ts.flatMap tokenStretches).map (·.entry source)) := by
  induction h with
  | nil o => rfl
  | @cons o e t ts hlex hts ih =>
      rw [List.map_cons, List.flatMap_cons, List.map_append, entries, ih]
      have hlabel : (Mark.ofToken t).label = t.label := rfl
      rw [hlabel]
      cases ht : typeOf? t.label with
      | none =>
          have hnil : tokenStretches t = [] := by
            unfold tokenStretches
            rw [ht]
          rw [hnil]
          rfl
      | some type =>
          obtain ⟨p, more, hl, hlies, -⟩ := lies_of_lexed hlex
          obtain ⟨m, -, -, heq⟩ := hlex.bounds
          have hpos : t.start = positionAt source o := by
            rw [heq]
            rfl
          have hpieces : pieces (Text.lines source) type
              (Mark.ofToken t).row (Mark.ofToken t).col
              (Text.lines (Mark.ofToken t).text)
              = some ((tokenStretches t).map (·.entry source)) := by
            rw [tokenStretches_eq hlex hl ht]
            show pieces _ type t.start.row t.start.col (Text.lines t.text) = _
            rw [hl, hpos]
            exact pieces_eq type hlies (clean_of_lines hl)
          simp only [hpieces]
          rfl

-- ==================================================== entries by offset

/-- An entry stands before another one and does not touch it. -/
def Entry.Before (e f : Entry) : Prop :=
  e.line < f.line ∨ e.line = f.line ∧ e.start + e.length ≤ f.start

/-- The columns of a stretch are as many as its units. -/
theorem Stretch.Valid.stop_column {s : Stretch} (h : s.Valid source) :
    (positionAt source s.stop).row = (positionAt source s.start).row
      ∧ column16 source s.stop
        = (s.entry source).start + (s.entry source).length := by
  obtain ⟨hlt, -, hclean⟩ := h
  obtain ⟨n, hn⟩ := Nat.exists_eq_add_of_le (Nat.le_of_lt hlt)
  unfold Stretch.entry
  rw [hn] at hclean ⊢
  exact ⟨Text.row_add hclean, Text.column16_add hclean⟩

/-- The columns of two offsets of one row are in the order of the
offsets. -/
theorem column16_mono {x y : Nat} (hxy : x ≤ y)
    (hrow : (positionAt source y).row = (positionAt source x).row) :
    column16 source x ≤ column16 source y := by
  obtain ⟨n, rfl⟩ := Nat.exists_eq_add_of_le hxy
  rw [Text.column16_add (Text.not_mem_slice_of_row_eq hrow)]
  exact Nat.le_add_right _ _

/-- Rows do not go down along a source. -/
theorem row_le (source : Text) {x y : Nat} (hxy : x ≤ y) :
    (positionAt source x).row ≤ (positionAt source y).row := by
  obtain ⟨n, rfl⟩ := Nat.exists_eq_add_of_le hxy
  exact Text.row_mono

/-- Entries are in the order of their stretches. -/
theorem before_entry {s u : Stretch} (hs : s.Valid source)
    (hsu : s.stop ≤ u.start) :
    (s.entry source).Before (u.entry source) := by
  obtain ⟨hrow, hcol⟩ := hs.stop_column
  have hle := row_le source hsu
  rw [hrow] at hle
  rcases Nat.lt_or_eq_of_le hle with hlt | heq
  · exact Or.inl (Int.ofNat_lt.2 hlt)
  · refine Or.inr ⟨congrArg Int.ofNat heq, ?_⟩
    rw [← hcol]
    exact column16_mono hsu (by rw [hrow, heq])

/-- An entry ends within its line. -/
theorem exists_line_of_entry {s : Stretch} (h : s.Valid source) :
    ∃ line, (Text.lines source)[(positionAt source s.start).row]? = some line
      ∧ (s.entry source).start + (s.entry source).length
        ≤ units16 line := by
  obtain ⟨hrow, hcol⟩ := h.stop_column
  refine ⟨slice source (Text.lineStart source s.stop) s.stop
    ++ restAt source s.stop, ?_, ?_⟩
  · rw [← hrow]
    exact Text.line_of_offset source s.stop
  · rw [← hcol, Text.units16_append]
    exact Nat.le_add_right _ _

/-- The character at an offset takes the columns up to the next offset. -/
theorem column16_succ {x : Nat} {c : Char} (hx : source[x]? = some c)
    (hc : c ≠ '\n') :
    (positionAt source (x + 1)).row = (positionAt source x).row
      ∧ column16 source (x + 1) = column16 source x + Text.unitsOf c := by
  obtain ⟨hlt, hget⟩ := List.getElem?_eq_some_iff.1 hx
  have hslice : slice source x (x + 1) = [c] := by
    rw [Text.slice_eq_take_drop, List.drop_eq_getElem_cons hlt, hget]
    rfl
  have hclean : '\n' ∉ slice source x (x + 1) := by
    rw [hslice, List.mem_singleton]
    exact fun e => hc e.symm
  refine ⟨Text.row_add hclean, ?_⟩
  rw [Text.column16_add hclean, hslice]
  rfl

/-- An entry takes a column of a character just when its stretch holds the
character. -/
theorem covers_entry_iff {s : Stretch} {x k : Nat} {c : Char}
    (hs : s.Valid source) (hx : source[x]? = some c) (hc : c ≠ '\n')
    (hk : k < Text.unitsOf c) :
    (s.entry source).Covers (positionAt source x).row (column16 source x + k)
      ↔ s.start ≤ x ∧ x < s.stop := by
  obtain ⟨hlt, -⟩ := List.getElem?_eq_some_iff.1 hx
  obtain ⟨hrow, hcol⟩ := hs.stop_column
  obtain ⟨hrow', hcol'⟩ := column16_succ hx hc
  have hline : (s.entry source).line = (positionAt source s.start).row := rfl
  have hstart : (s.entry source).start = column16 source s.start := rfl
  have hord := hs.lt
  unfold Entry.Covers
  rw [hline, ← hcol, hstart]
  constructor
  · rintro ⟨hr, hlo, hhi⟩
    have hr' : (positionAt source s.start).row = (positionAt source x).row :=
      Int.ofNat.inj hr
    constructor
    · by_contra hn
      have hmono : column16 source (x + 1) ≤ column16 source s.start :=
        column16_mono (by omega) (by rw [hr', hrow'])
      omega
    · by_contra hn
      have hmono : column16 source s.stop ≤ column16 source x :=
        column16_mono (by omega) (by rw [hrow, hr'])
      omega
  · rintro ⟨hlo, hhi⟩
    have h₁ := row_le source hlo
    have h₂ := row_le source (Nat.le_of_lt hhi)
    have hr : (positionAt source x).row = (positionAt source s.start).row := by
      omega
    have hlow := column16_mono hlo hr
    have hhigh : column16 source (x + 1) ≤ column16 source s.stop :=
      column16_mono hhi (by omega)
    exact ⟨congrArg Int.ofNat hr.symm, by omega, by omega⟩

end Highlight.Semantic
