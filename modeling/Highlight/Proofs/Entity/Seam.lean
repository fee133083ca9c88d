/-
Where a piece of escaped text begins and stops: between two characters of
the text as it was, or inside the entity that one of them became.

A place between two characters is a seam; every other one cuts an entity
in two (`isSeam_or_inside`). So from any place on, escaped text is what is
left of one escaped character, the residue, and behind it the escape of
the rest (`exists_residue`).

# Gateways

A scan enters an entity behind its ampersand, and it may stop before the
semicolon. These places and the seams are gateways. Everywhere else the
letters of a name stand on both sides (`isGateway_or_inWord`), which is
where no word and no run of word characters ends.
-/
import Highlight.Proofs.Escape.Scan
import Highlight.Proofs.Regex.Choice

namespace Highlight

open Text (isWordChar)

namespace Html

-- ========================================================== vocabulary

/-- What follows the ampersand of an entity. -/
def entityStarts : List Text :=
  ["amp;".toList, "lt;".toList, "gt;".toList]

/-- The entities in two pieces. -/
def entityCuts : List (Text × Text) :=
  [("&".toList, "amp;".toList), ("&a".toList, "mp;".toList),
   ("&am".toList, "p;".toList), ("&amp".toList, ";".toList),
   ("&".toList, "lt;".toList), ("&l".toList, "t;".toList),
   ("&lt".toList, ";".toList),
   ("&".toList, "gt;".toList), ("&g".toList, "t;".toList),
   ("&gt".toList, ";".toList)]

/-- What may be left of an entity behind its ampersand. -/
def entityTails : List Text :=
  ["amp;".toList, "mp;".toList, "p;".toList, ";".toList, "lt;".toList,
   "t;".toList, "gt;".toList]

/-- What may be left of an escaped character. -/
def residues : List Text := [] :: entityTails

/-- What is left of an entity where a scan may come to stand. -/
def entrances : List Text := [';'] :: entityStarts

/-- What is left of an entity, if anything, where a scan may come to stand.
-/
def gateways : List Text := [] :: entrances

/-- A place of a residue and the escape of a text: behind the residue and
some escaped characters. -/
def IsSeam (x t : Text) (n : Nat) : Prop :=
  ∃ o ≤ t.length, n = x.length + (escape (t.take o)).length

/-- A place of an escaped text that cuts an entity in these pieces. -/
structure Inside (t : Text) (n : Nat) (v x : Text) : Prop where
  cut : (v, x) ∈ entityCuts
  lies : ∃ s c u, t = s ++ c :: u ∧ c ∈ specials ∧ escapeChar c = v ++ x
    ∧ n = (escape s ++ v).length

/-- From the place on, an escaped text is the residue and the escape of
what follows. -/
def Leaves (t : Text) (n : Nat) (x : Text) : Prop :=
  ∃ o ≤ t.length, n + x.length = (escape (t.take o)).length
    ∧ (escape t).drop n = x ++ escape (t.drop o)

/-- A place of an escaped text where a scan may come to stand. -/
def IsGateway (t : Text) (n : Nat) : Prop := ∃ x ∈ gateways, Leaves t n x

end Html

open Html

/-- An offset of the escaped text that lies strictly inside the entity of
some character. -/
def Scan.InEntity (source : Text) (e : Nat) : Prop :=
  ∃ o c, source[o]? = some c ∧ c ∈ specials
    ∧ escapedOffset source o < e ∧ e < escapedOffset source (o + 1)

namespace Html

variable {x v t u : Text} {n m : Nat}

-- ============================================================= pieces

/-- The list has all the ways to cut an entity in two. -/
theorem mem_entityCuts {c : Char} (hc : c ∈ specials) (hn : 0 < n)
    (hlt : n < (escapeChar c).length) :
    ((escapeChar c).take n, (escapeChar c).drop n) ∈ entityCuts := by
  have hall : ∀ w ∈ entityNames, ∀ n < ('&' :: (w ++ [';'])).length, 0 < n →
      (('&' :: (w ++ [';'])).take n, ('&' :: (w ++ [';'])).drop n)
        ∈ entityCuts := by
    decide
  obtain ⟨w, hw, he⟩ := escapeChar_of_mem hc
  rw [he] at hlt ⊢
  exact hall w hw n hlt hn

/-- Every place of an escaped text is a seam or cuts an entity. -/
theorem isSeam_or_inside (hn : n ≤ (escape t).length) :
    IsSeam [] t n ∨ ∃ v x, Inside t n v x := by
  induction t generalizing n with
  | nil =>
      obtain rfl : n = 0 := Nat.le_zero.1 hn
      exact Or.inl ⟨0, Nat.le_refl 0, rfl⟩
  | cons c t ih =>
      rcases Nat.eq_zero_or_pos n with rfl | hpos
      · exact Or.inl ⟨0, Nat.zero_le _, rfl⟩
      rcases Nat.lt_or_ge n (escapeChar c).length with hlt | hge
      · right
        have hc : c ∈ specials := by
          by_contra hc
          rw [escapeChar_of_not_mem hc, List.length_singleton] at hlt
          omega
        refine ⟨_, _, mem_entityCuts hc hpos hlt, [], c, t, rfl, hc,
          (List.take_append_drop n _).symm, ?_⟩
        rw [escape_nil, List.nil_append, List.length_take_of_le
          (Nat.le_of_lt hlt)]
      · rw [escape_cons, List.length_append] at hn
        rcases ih (n := n - (escapeChar c).length) (by omega) with h | h
        · obtain ⟨o, ho, hlen⟩ := h
          rw [List.length_nil, Nat.zero_add] at hlen
          refine Or.inl ⟨o + 1, Nat.succ_le_succ ho, ?_⟩
          rw [List.take_succ_cons, escape_cons, List.length_append,
            List.length_nil]
          omega
        · obtain ⟨v, x, hcut, s, d, u, rfl, hd, he, hlen⟩ := h
          refine Or.inr ⟨v, x, hcut, c :: s, d, u, rfl, hd, he, ?_⟩
          rw [escape_cons, List.append_assoc, List.length_append]
          omega

/-- The first piece of the entity lies just before the place. -/
theorem Inside.suffix (h : Inside t n v x) : v <:+ (escape t).take n := by
  obtain ⟨s, c, u, rfl, -, he, rfl⟩ := h.lies
  refine ⟨escape s, ?_⟩
  rw [escape_append, escape_cons, he, ← List.append_assoc,
    ← List.append_assoc, List.append_assoc _ x, List.take_left]

/-- The second piece is what the place leaves. -/
theorem Inside.leaves (h : Inside t n v x) : Leaves t n x := by
  obtain ⟨s, c, u, rfl, -, he, rfl⟩ := h.lies
  refine ⟨s.length + 1, by simp, ?_, ?_⟩
  · rw [List.take_length_add_append, escape_append, List.take_succ_cons,
      List.take_zero, escape_cons, escape_nil, List.append_nil, he]
    simp only [List.length_append]
    omega
  · rw [List.drop_length_add_append, List.drop_succ_cons, List.drop_zero,
      escape_append, escape_cons, he, ← List.append_assoc,
      ← List.append_assoc, List.append_assoc _ x, List.drop_left]

/-- A seam leaves nothing of the character before it. -/
theorem IsSeam.leaves (h : IsSeam [] t n) : Leaves t n [] := by
  obtain ⟨o, ho, rfl⟩ := h
  rw [List.length_nil, Nat.zero_add]
  exact ⟨o, ho, rfl, drop_escape t o⟩

/-- Without anything left of a character, a place is a seam. -/
theorem isSeam_of_leaves (h : Leaves t n []) : IsSeam [] t n := by
  obtain ⟨o, ho, hlen, -⟩ := h
  rw [List.length_nil, Nat.add_zero] at hlen
  exact ⟨o, ho, hlen.trans (Nat.zero_add _).symm⟩

-- ============================================================ residues

/-- A residue never goes beyond a line. -/
theorem lineFeed_not_mem_residue (hx : x ∈ residues) : '\n' ∉ x := by
  revert x
  decide

theorem gateways_subset : gateways ⊆ residues := by decide

theorem entrances_subset : entrances ⊆ gateways := by decide

/-- From any place on, escaped text is a residue and the escape of a
rest. -/
theorem exists_residue (hn : n ≤ (escape t).length) :
    ∃ x ∈ residues, Leaves t n x := by
  rcases isSeam_or_inside hn with h | ⟨v, x, h⟩
  · exact ⟨[], List.mem_cons_self, h.leaves⟩
  · have hall : ∀ e ∈ entityCuts, e.2 ∈ residues := by decide
    exact ⟨x, hall _ h.cut, h.leaves⟩

/-- A scan may come to stand between any two characters. -/
theorem IsSeam.isGateway (h : IsSeam [] t n) : IsGateway t n :=
  ⟨[], List.mem_cons_self, h.leaves⟩

/-- A piece of an entity is cut off at a gateway, or inside its name. -/
theorem named_or_word (h : (v, x) ∈ entityCuts) :
    (x ∈ gateways ∧ ∃ w ∈ [] :: entityNames, v = '&' :: w)
      ∨ v.getLast?.any isWordChar = true
        ∧ x.head?.any isWordChar = true := by
  have hall : ∀ e ∈ entityCuts,
      (e.2 ∈ gateways ∧ ∃ w ∈ [] :: entityNames, e.1 = '&' :: w)
        ∨ e.1.getLast?.any isWordChar = true
          ∧ e.2.head?.any isWordChar = true := by
    decide +kernel
  exact hall _ h

/-- What the last character of a suffix is like, that of the whole is like.
-/
theorem any_getLast?_of_suffix {q : Char → Bool} {w : Text} (h : v <:+ w)
    (hv : v.getLast?.any q = true) : w.getLast?.any q = true := by
  obtain ⟨s, rfl⟩ := h
  rw [List.getLast?_append]
  cases hlast : v.getLast? with
  | none =>
      rw [hlast] at hv
      cases hv
  | some c =>
      rw [hlast] at hv
      exact hv

/-- What the first character of a prefix is like, that of the whole is
like. -/
theorem any_head?_of_prefix {q : Char → Bool} {w : Text} (h : v <+: w)
    (hv : v.head?.any q = true) : w.head?.any q = true := by
  obtain ⟨s, rfl⟩ := h
  cases v with
  | nil => cases hv
  | cons c v => exact hv

/-- A place between letters of a name is one within a word. -/
theorem Inside.inWord (h : Inside t n v x)
    (hv : v.getLast?.any isWordChar = true)
    (hx : x.head?.any isWordChar = true) : Text.InWord (escape t) n := by
  obtain ⟨o, -, -, hdrop⟩ := h.leaves
  exact ⟨any_getLast?_of_suffix h.suffix hv,
    any_head?_of_prefix ⟨_, hdrop.symm⟩ hx⟩

/-- A place that is no gateway stands within a word. -/
theorem isGateway_or_inWord (hn : n ≤ (escape t).length) :
    IsGateway t n ∨ Text.InWord (escape t) n := by
  rcases isSeam_or_inside hn with h | ⟨v, x, h⟩
  · exact Or.inl h.isGateway
  · rcases named_or_word h.cut with ⟨hx, -⟩ | ⟨hv, hx⟩
    · exact Or.inl ⟨x, hx, h.leaves⟩
    · exact Or.inr (h.inWord hv hx)

-- =============================================================== seams

/-- A seam of a text is one of every longer text. -/
theorem IsSeam.append (h : IsSeam x t n) (u : Text) :
    IsSeam x (t ++ u) n := by
  obtain ⟨o, ho, rfl⟩ := h
  refine ⟨o, Nat.le_trans ho (by simp), ?_⟩
  rw [List.take_append_of_le_length ho]

/-- The end is a seam. -/
theorem isSeam_end (x t : Text) : IsSeam x t (x ++ escape t).length :=
  ⟨t.length, Nat.le_refl _, by rw [List.take_length, List.length_append]⟩

/-- A seam of a text stays one when a residue and another text come
before it. -/
theorem IsSeam.behind (h : IsSeam [] u n) (x t : Text) :
    IsSeam x (t ++ u) ((x ++ escape t).length + n) := by
  obtain ⟨o, ho, rfl⟩ := h
  refine ⟨t.length + o, by simp [ho], ?_⟩
  rw [List.take_length_add_append, escape_append, List.length_append,
    List.length_append, List.length_nil]
  omega

/-- Places of the rest of an escaped text are places of the text. -/
theorem IsSeam.of_drop {o : Nat} (ho : o ≤ t.length)
    (hx : n + x.length = (escape (t.take o)).length)
    (h : IsSeam x (t.drop o) m) : IsSeam [] t (n + m) := by
  obtain ⟨k, hk, rfl⟩ := h
  rw [List.length_drop] at hk
  refine ⟨o + k, by omega, ?_⟩
  rw [List.take_add, escape_append, List.length_append, List.length_nil]
  omega

-- =============================================================== lines

/-- The first line behind a residue is the escaped first line of the text.
-/
theorem firstLine_append_escape (hx : x ∈ residues) (t : Text) :
    Text.firstLine (x ++ escape t) = x ++ escape (Text.firstLine t) := by
  rw [← firstLine_escape]
  unfold Text.firstLine
  rw [List.takeWhile_append_of_pos]
  intro c hc
  rw [bne_iff_ne]
  exact fun h => lineFeed_not_mem_residue hx (h ▸ hc)

/-- A seam of the first line is one of the whole text. -/
theorem isSeam_of_firstLine (h : IsSeam x (Text.firstLine t) n) :
    IsSeam x t n := by
  have happend := h.append (Text.afterFirstLine t)
  rwa [Text.firstLine_append_afterFirstLine] at happend

end Html

namespace Scan

variable {rules : List Rule} {source : Text}

/-- Escaping keeps offsets in order. -/
theorem escapedOffset_mono (source : Text) {o o' : Nat} (h : o ≤ o') :
    escapedOffset source o ≤ escapedOffset source o' := by
  obtain ⟨k, rfl⟩ := Nat.exists_eq_add_of_le h
  rw [escapedOffset_add]
  exact Nat.le_add_right _ _

/-- No seam lies inside an entity. -/
theorem not_inEntity {e : Nat} (h : IsSeam [] source e) :
    ¬ InEntity source e := by
  obtain ⟨o, -, he⟩ := h
  rw [List.length_nil, Nat.zero_add] at he
  rintro ⟨o', c, -, -, hlt, hgt⟩
  change e = escapedOffset source o at he
  rw [he] at hlt hgt
  have hle : o' < o := by
    by_contra hge
    exact absurd (escapedOffset_mono source (Nat.le_of_not_lt hge))
      (Nat.not_le_of_lt hlt)
  exact absurd (escapedOffset_mono source hle) (Nat.not_le_of_lt hgt)

/-- Every place outside the entities is a seam. -/
theorem isSeam_of_not_inEntity {e : Nat} (he : e ≤ (escape source).length)
    (h : ¬ InEntity source e) : IsSeam [] source e := by
  refine (isSeam_or_inside he).resolve_right ?_
  rintro ⟨v, x, hcut, s, c, u, rfl, hc, hchar, rfl⟩
  have hne : ∀ e ∈ entityCuts, 0 < e.1.length ∧ 0 < e.2.length := by decide
  have hv : 0 < v.length := (hne _ hcut).1
  have hx : 0 < x.length := (hne _ hcut).2
  refine h ⟨s.length, c, by simp, hc, ?_, ?_⟩
  · unfold escapedOffset
    rw [List.take_left, List.length_append]
    omega
  · unfold escapedOffset
    rw [List.take_length_add_append, List.take_succ_cons, List.take_zero,
      escape_append, escape_cons, escape_nil, List.append_nil, hchar]
    simp only [List.length_append]
    omega

end Scan

end Highlight
