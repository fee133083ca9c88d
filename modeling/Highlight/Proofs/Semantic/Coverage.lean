/-
The numbers an editor is given are a faithful account of the tokens: they
can be made for every source that scans, they read back as entries in the
order of the source, and each character but a line feed lies in one entry
with the type of its token, or in none if the token has no type
(`ofTokens_faithful`).
-/
import Highlight.Language.Builtin
import Highlight.Proofs.Semantic.Stretch

namespace Highlight.Semantic

open Text (positionAt slice column16 units16)

variable {source : Text}

-- ========================================================== vocabulary

/-- The token holds the character at an offset. -/
def Holds (t : Token) (x : Nat) : Prop :=
  t.start.offset ≤ x ∧ x < t.stop.offset

/-- Numbers that tell what the tokens of a source are: read back, they are
entries in order, each within its line, which take the columns of a
character just once, or not at all if its token has no type. -/
structure Faithful (source : Text) (ts : List Token) (data : List Int) :
    Prop where
  dvd : 5 ∣ data.length
  nonneg : ∀ x ∈ data, 0 ≤ x
  length_pos : ∀ e ∈ decode 0 0 data, 0 < e.length
  ordered : (decode 0 0 data).Pairwise Entry.Before
  in_line : ∀ e ∈ decode 0 0 data, 0 ≤ e.line
    ∧ ∃ line, (Text.lines source)[e.line.toNat]? = some line
      ∧ e.start + e.length ≤ units16 line
  covered : ∀ x c, source[x]? = some c → c ≠ '\n' →
    (∃ t ∈ ts, Holds t x) ∧ ∀ t ∈ ts, Holds t x →
      ∀ k < Text.unitsOf c,
        ((decode 0 0 data).filter
            (·.Covers (positionAt source x).row (column16 source x + k))).map
          Entry.type = (typeOf? t.label).toList

-- ============================================================= numbers

/-- Entries in order, none before a line and column, make no negative
numbers. -/
theorem nonneg_deltas {line : Int} {start : Nat} {es : List Entry}
    (hes : es.Pairwise Entry.Before)
    (hlo : ∀ e ∈ es, line < e.line ∨ line = e.line ∧ start ≤ e.start) :
    ∀ x ∈ deltas line start es, 0 ≤ x := by
  induction es generalizing line start with
  | nil =>
      intro x hx
      cases hx
  | cons e es ih =>
      obtain ⟨hbefore, hes⟩ := List.pairwise_cons.1 hes
      have hmore : ∀ x ∈ deltas e.line e.start es, 0 ≤ x := by
        refine ih hes fun f hf => ?_
        rcases hbefore f hf with hlt | ⟨heq, hle⟩
        · exact Or.inl hlt
        · exact Or.inr ⟨heq, by omega⟩
      have he := hlo e List.mem_cons_self
      intro x hx
      simp only [deltas, List.mem_append, List.mem_cons, List.not_mem_nil,
        or_false] at hx
      rcases hx with (rfl | rfl | rfl | rfl | rfl) | hx
      · omega
      · split <;> omega
      · omega
      · omega
      · omega
      · exact hmore x hx

-- ========================================================== one stretch

/-- At most one of some stretches in order holds an offset. -/
theorem filter_eq_singleton {l : List Stretch} {s : Stretch} {x : Nat}
    (hl : l.Pairwise fun s u => s.stop ≤ u.start) (hs : s ∈ l)
    (hx : s.start ≤ x ∧ x < s.stop) :
    l.filter (fun u => decide (u.start ≤ x ∧ x < u.stop)) = [s] := by
  induction l with
  | nil => cases hs
  | cons a l ih =>
      obtain ⟨ha, hl⟩ := List.pairwise_cons.1 hl
      rcases List.mem_cons.1 hs with rfl | hs
      · rw [List.filter_cons_of_pos (by simpa using hx)]
        congr 1
        refine List.filter_eq_nil_iff.2 fun u hu => ?_
        have := ha u hu
        simp only [decide_eq_true_eq, not_and]
        omega
      · have := ha s hs
        rw [List.filter_cons_of_neg, ih hl hs]
        simp only [decide_eq_true_eq, not_and]
        omega

/-- The entries that take a column of a character are those whose stretches
hold it. -/
theorem filter_covers {l : List Stretch} {x k : Nat} {c : Char}
    (hl : ∀ s ∈ l, s.Valid source) (hx : source[x]? = some c) (hc : c ≠ '\n')
    (hk : k < Text.unitsOf c) :
    (l.map (·.entry source)).filter
        (·.Covers (positionAt source x).row (column16 source x + k))
      = (l.filter (fun u => decide (u.start ≤ x ∧ x < u.stop))).map
          (·.entry source) := by
  rw [List.filter_map]
  congr 1
  refine List.filter_congr fun s hs => ?_
  have hiff := covers_entry_iff (hl s hs) hx hc hk
  exact decide_eq_decide.2 hiff

-- ============================================================ one token

open Scan (Lexed)

variable {rules : List Rule}

/-- No two tokens hold the same character. -/
theorem eq_of_holds {o e x : Nat} {ts : List Token} {t u : Token}
    (h : Scan.Path rules source o ts e) (ht : t ∈ ts) (hu : u ∈ ts)
    (htx : Holds t x) (hux : Holds u x) : t = u := by
  unfold Holds at htx hux
  induction h with
  | nil o => cases ht
  | @cons o e v ts hlex hts ih =>
      rcases List.mem_cons.1 ht with htv | ht
      · rcases List.mem_cons.1 hu with huv | hu
        · rw [htv, huv]
        · have hle := hts.le_start hu
          rw [← htv] at hle
          omega
      · rcases List.mem_cons.1 hu with huv | hu
        · have hle := hts.le_start ht
          rw [← huv] at hle
          omega
        · exact ih ht hu

/-- Every character on the way lies in a token. -/
theorem exists_holds {o e x : Nat} {ts : List Token}
    (h : Scan.Path rules source o ts e) (hlo : o ≤ x) (hhi : x < e) :
    ∃ t ∈ ts, Holds t x := by
  induction h with
  | nil o => omega
  | @cons o e v ts hlex hts ih =>
      by_cases hx : x < v.stop.offset
      · refine ⟨v, List.mem_cons_self, ?_, hx⟩
        rw [hlex.start_offset]
        exact hlo
      · obtain ⟨t, ht, hin⟩ := ih (Nat.le_of_not_lt hx) hhi
        exact ⟨t, List.mem_cons_of_mem _ ht, hin⟩

/-- The stretch of a token with a type that holds a character. -/
theorem exists_tokenStretch {o x type : Nat} {t : Token} {c : Char}
    (h : Lexed rules source o t) (ht : typeOf? t.label = some type)
    (htx : Holds t x) (hx : source[x]? = some c) (hc : c ≠ '\n') :
    ∃ s ∈ tokenStretches t, (s.start ≤ x ∧ x < s.stop) ∧ s.type = type := by
  obtain ⟨p, more, hl, hlies, hlen⟩ := lies_of_lexed h
  obtain ⟨hlo, hhi⟩ := htx
  rw [h.start_offset] at hlo
  rw [← hlen] at hhi
  have hne : source[x]? ≠ some '\n' := by
    rw [hx]
    exact fun e => hc (Option.some.inj e)
  obtain ⟨s, hs, hin⟩ := exists_stretch type hlies hlo hhi hne
  rw [← tokenStretches_eq h hl ht] at hs
  refine ⟨s, hs, hin, ?_⟩
  have htype := (mem_tokenStretches h hs).2.1
  rw [ht] at htype
  exact (Option.some.inj htype).symm

-- =========================================================== all tokens

variable {ts : List Token}

theorem valid_of_mem {s : Stretch}
    (h : Scan.Path rules source 0 ts source.length)
    (hs : s ∈ ts.flatMap tokenStretches) : s.Valid source := by
  obtain ⟨-, t, -, hlex, hst⟩ := mem_pathStretches h hs
  exact (mem_tokenStretches hlex hst).1

/-- The types of the entries that take a column of a character. -/
theorem types_of_covers {t : Token} {x k : Nat} {c : Char}
    (h : Scan.Path rules source 0 ts source.length) (ht : t ∈ ts)
    (htx : Holds t x) (hx : source[x]? = some c) (hc : c ≠ '\n')
    (hk : k < Text.unitsOf c) :
    (((ts.flatMap tokenStretches).map (·.entry source)).filter
        (·.Covers (positionAt source x).row (column16 source x + k))).map
      Entry.type = (typeOf? t.label).toList := by
  rw [filter_covers (fun s hs => valid_of_mem h hs) hx hc hk]
  cases hty : typeOf? t.label with
  | some type =>
      obtain ⟨s, hs, hin, htype⟩ :=
        exists_tokenStretch (h.exists_lexed ht) hty htx hx hc
      rw [filter_eq_singleton (pairwise_pathStretches h)
        (List.mem_flatMap.2 ⟨t, ht, hs⟩) hin]
      show [s.type] = [type]
      rw [htype]
  | none =>
      have hnil : (ts.flatMap tokenStretches).filter
          (fun u => decide (u.start ≤ x ∧ x < u.stop)) = [] := by
        refine List.filter_eq_nil_iff.2 fun s hs => ?_
        rw [decide_eq_true_eq]
        rintro ⟨hlo, hhi⟩
        obtain ⟨-, u, hu, hlexu, hsu⟩ := mem_pathStretches h hs
        obtain ⟨-, htype, hlo', hhi'⟩ := mem_tokenStretches hlexu hsu
        have htu : t = u := eq_of_holds h ht hu htx ⟨by omega, by omega⟩
        rw [htu, htype] at hty
        cases hty
      rw [hnil]
      rfl

theorem pairwise_before (h : Scan.Path rules source 0 ts source.length) :
    ((ts.flatMap tokenStretches).map (·.entry source)).Pairwise
      Entry.Before := by
  rw [List.pairwise_map]
  exact (pairwise_pathStretches h).imp_of_mem fun hs _ hsu =>
    before_entry (valid_of_mem h hs) hsu

/-- The entries of all stretches, written as numbers, are faithful to the
tokens. -/
theorem faithful_deltas (h : Scan.Path rules source 0 ts source.length) :
    Faithful source ts
      (deltas 0 0 ((ts.flatMap tokenStretches).map (·.entry source))) := by
  have hdecode := decode_deltas 0 0
    ((ts.flatMap tokenStretches).map (·.entry source))
  -- Every entry is that of a valid stretch.
  have hmem : ∀ e ∈ (ts.flatMap tokenStretches).map (·.entry source),
      ∃ s : Stretch, s.Valid source ∧ e = s.entry source := by
    intro e he
    obtain ⟨s, hs, rfl⟩ := List.mem_map.1 he
    exact ⟨s, valid_of_mem h hs, rfl⟩
  rw [Int.natCast_zero] at hdecode
  constructor
  case dvd =>
    rw [length_deltas]
    exact Nat.dvd_mul_right 5 _
  case nonneg =>
    refine nonneg_deltas (pairwise_before h) fun e he => ?_
    obtain ⟨s, -, rfl⟩ := hmem e he
    have hrow : (s.entry source).line = (positionAt source s.start).row := rfl
    omega
  case length_pos =>
    rw [hdecode]
    intro e he
    obtain ⟨s, hv, rfl⟩ := hmem e he
    have hlt := hv.lt
    refine Text.units16_pos fun hnil => ?_
    obtain ⟨n, hn⟩ := Nat.exists_eq_add_of_le (Nat.le_of_lt hlt)
    have hlen := Text.length_slice (hn ▸ hv.le)
    rw [← hn, hnil] at hlen
    rw [List.length_nil] at hlen
    omega
  case ordered =>
    rw [hdecode]
    exact pairwise_before h
  case in_line =>
    rw [hdecode]
    intro e he
    obtain ⟨s, hv, rfl⟩ := hmem e he
    exact ⟨Int.natCast_nonneg _, exists_line_of_entry hv⟩
  case covered =>
    rw [hdecode]
    intro x c hx hc
    refine ⟨?_, fun t ht htx k hk => types_of_covers h ht htx hx hc hk⟩
    obtain ⟨hlt, -⟩ := List.getElem?_eq_some_iff.1 hx
    exact exists_holds h (Nat.zero_le x) hlt

-- ============================================================== sources

/-- The tokens of a scan lie in the source, so their numbers are those of
their stretches. -/
theorem ofTokens_eq {o e : Nat} {ts : List Token}
    (h : Scan.Path rules source o ts e) :
    ofTokens ts source = some (deltas 0 0
      ((ts.flatMap tokenStretches).map (·.entry source))) := by
  unfold ofTokens encode
  rw [entries_eq h]
  rfl

/-- A source without numbers is one on which the scan halts. -/
theorem ofSource_ne_outside (rules : List Rule) (source : Text) :
    ofSource rules source ≠ .error .outside := by
  unfold ofSource
  cases h : tokenize rules source with
  | error halt =>
      intro hout
      cases hout
  | ok ts =>
      dsimp only
      rw [ofTokens_eq (Scan.tokenize_ok_iff.1 h)]
      intro hout
      cases hout

-- ========================================================== the result

/-- The tokens of a finished scan can be written as numbers, and the
numbers are faithful to the tokens. -/
theorem ofTokens_faithful (rules : List Rule) (source : Text) :
    ∀ ts, tokenize rules source = .ok ts →
      ∃ data, ofTokens ts source = some data ∧ Faithful source ts data := by
  intro ts h
  have hpath := Scan.tokenize_ok_iff.1 h
  exact ⟨_, ofTokens_eq hpath, faithful_deltas hpath⟩

/-- A comment over three lines, one of them empty, one with a character of
two units. -/
theorem ofTokens_faithful_astral :
    ∃ ts data,
      tokenize Language.css.rules "/*\n\n😀*/x".toList = .ok ts
        ∧ ofTokens ts "/*\n\n😀*/x".toList = some data
        ∧ Faithful "/*\n\n😀*/x".toList ts data := by
  have h : tokenize Language.css.rules "/*\n\n😀*/x".toList
      = .ok [⟨some "comment", "/*\n\n😀*/".toList, ⟨0, 0, 0⟩, ⟨2, 3, 7⟩⟩,
        ⟨none, "x".toList, ⟨2, 3, 7⟩, ⟨2, 4, 8⟩⟩] := by
    decide +kernel
  obtain ⟨data, hdata, hfaithful⟩ := ofTokens_faithful _ _ _ h
  exact ⟨_, data, h, hdata, hfaithful⟩

end Highlight.Semantic
