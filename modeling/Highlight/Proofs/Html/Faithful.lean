/-
Markup is a faithful annotation: the marks taken off, the source is left,
and the marks themselves tell the tokens, up to what no reader of a page
can see (`markup_faithful`).

What can be seen of tokens are their `pieces`: an empty label is none, an
empty text without a label is nothing, and texts without labels that stand
next to each other are one. Markup is the same for tokens with the same
pieces, and pieces are read off the markup from its front: a piece with a
label begins with a '<', which no other does.
-/
import Highlight.Language.Builtin
import Highlight.Proofs.Html.Strip

namespace Highlight.Html

-- ========================================================== vocabulary

/-- A text with the label it shows. -/
abbrev Piece := Option String × Text

namespace Piece

/-- A piece that can be told from nothing. -/
def isVisible (p : Piece) : Bool := p.1.isSome || p.2 != []

/-- A piece whose markup can be read back. -/
def IsClean (p : Piece) : Prop := '<' ∉ p.2 ∧ ∀ l ∈ p.1, IsLabel l

/-- A piece as it stands in markup. -/
def markup : Piece → Text
  | (none, s) => s
  | (some l, s) =>
    spanOpening ++ (l.toList ++ (spanOpeningEnd ++ (s ++ spanClosing)))

end Piece

/-- Puts texts without labels that stand next to each other together. -/
def joinPlain : List Piece → List Piece
  | [] => []
  | p :: ps =>
    match p, joinPlain ps with
    | (none, s), (none, t) :: qs => (none, s ++ t) :: qs
    | p, qs => p :: qs

/-- What can be seen of tokens. -/
def pieces (ts : List Token) : List Piece :=
  joinPlain ((ts.map fun t => (t.shown?, t.text)).filter Piece.isVisible)

/-- Pieces that cannot be put together any further. -/
structure IsJoined (ps : List Piece) : Prop where
  clean : ∀ p ∈ ps, p.IsClean
  visible : ∀ p ∈ ps, p.isVisible
  apart : ps.IsChain fun p q => p.1 = none → q.1 ≠ none

variable {p q : Piece} {ps qs : List Piece} {ts us : List Token}

-- ============================================== the markup of the pieces

/-- A piece stays alone, or it is plain and joins the plain one behind it.
-/
theorem joinPlain_cons (p : Piece) (ps : List Piece) :
    (joinPlain (p :: ps) = p :: joinPlain ps
        ∧ (p.1 = none → ∀ q ∈ (joinPlain ps).head?, q.1 ≠ none))
      ∨ ∃ s t qs, p = (none, s) ∧ joinPlain ps = (none, t) :: qs
        ∧ joinPlain (p :: ps) = (none, s ++ t) :: qs := by
  obtain ⟨_ | l, s⟩ := p
  · rcases h : joinPlain ps with _ | ⟨⟨_ | m, t⟩, qs⟩
    · exact Or.inl ⟨by simp [joinPlain, h], by simp⟩
    · exact Or.inr ⟨s, t, qs, rfl, rfl, by simp [joinPlain, h]⟩
    · exact Or.inl ⟨by simp [joinPlain, h], by simp⟩
  · exact Or.inl ⟨by simp [joinPlain], by simp⟩

/-- Joining plain pieces does not change the markup. -/
theorem flatMap_markup_joinPlain (ps : List Piece) :
    (joinPlain ps).flatMap Piece.markup = ps.flatMap Piece.markup := by
  induction ps with
  | nil => rfl
  | cons p ps ih =>
      rcases joinPlain_cons p ps with ⟨h, -⟩ | ⟨s, t, qs, rfl, hps, h⟩
      · rw [h, List.flatMap_cons, ih, List.flatMap_cons]
      · rw [hps] at ih
        rw [h, List.flatMap_cons, List.flatMap_cons, ← ih, List.flatMap_cons]
        exact List.append_assoc s t _

/-- What cannot be seen leaves nothing in the markup. -/
theorem flatMap_markup_filter (ps : List Piece) :
    (ps.filter Piece.isVisible).flatMap Piece.markup
      = ps.flatMap Piece.markup := by
  induction ps with
  | nil => rfl
  | cons p ps ih =>
      by_cases hp : p.isVisible
      · rw [List.filter_cons_of_pos hp, List.flatMap_cons, ih,
          List.flatMap_cons]
      · obtain ⟨l, s⟩ := p
        simp only [Piece.isVisible, Bool.or_eq_true, not_or, bne_iff_ne,
          ne_eq, not_not, Bool.not_eq_true, Option.isSome_eq_false_iff,
          Option.isNone_iff_eq_none] at hp
        obtain ⟨rfl, rfl⟩ := hp
        rw [List.filter_cons_of_neg (by simp [Piece.isVisible]), ih]
        rfl

/-- A token is marked up as its piece. -/
theorem markup_piece (t : Token) :
    Piece.markup (t.shown?, t.text) = ofToken t := by
  rcases h : t.shown? with _ | l
  · rw [ofToken_of_not_shown h]
    rfl
  · rw [ofToken_of_shown h]
    rfl

/-- The markup of tokens is that of their pieces. -/
theorem ofTokens_eq (ts : List Token) :
    ofTokens ts = (pieces ts).flatMap Piece.markup := by
  unfold pieces
  rw [flatMap_markup_joinPlain, flatMap_markup_filter, List.flatMap_map]
  simp only [markup_piece, ofTokens]

-- ======================================================== joined pieces

/-- The rest of joined pieces is joined. -/
theorem IsJoined.of_cons (h : IsJoined (p :: ps)) : IsJoined ps where
  clean q hq := h.clean q (List.mem_cons_of_mem p hq)
  visible q hq := h.visible q (List.mem_cons_of_mem p hq)
  apart := (List.isChain_cons.1 h.apart).2

/-- Joining leaves no plain neighbours. -/
theorem isJoined_joinPlain (hclean : ∀ p ∈ ps, p.IsClean)
    (hvisible : ∀ p ∈ ps, p.isVisible) : IsJoined (joinPlain ps) := by
  induction ps with
  | nil => exact ⟨by simp [joinPlain], by simp [joinPlain], .nil⟩
  | cons p ps ih =>
      rw [List.forall_mem_cons] at hclean hvisible
      have hps := ih hclean.2 hvisible.2
      rcases joinPlain_cons p ps with ⟨h, hhead⟩ | ⟨s, t, qs, rfl, hqs, h⟩
      · rw [h]
        refine ⟨?_, ?_, ?_⟩
        · exact List.forall_mem_cons.2 ⟨hclean.1, hps.clean⟩
        · exact List.forall_mem_cons.2 ⟨hvisible.1, hps.visible⟩
        · exact List.isChain_cons.2
            ⟨fun q hq hp => hhead hp q hq, hps.apart⟩
      · rw [hqs] at hps
        rw [h]
        have ht := hps.clean _ List.mem_cons_self
        have hs := hvisible.1
        refine ⟨?_, ?_, ?_⟩
        · refine List.forall_mem_cons.2 ⟨⟨?_, by simp⟩, hps.of_cons.clean⟩
          simpa using ⟨hclean.1.1, ht.1⟩
        · refine List.forall_mem_cons.2 ⟨?_, hps.of_cons.visible⟩
          simp only [Piece.isVisible, Option.isSome_none, Bool.false_or,
            bne_iff_ne, ne_eq, List.append_eq_nil_iff, not_and] at hs ⊢
          exact fun h => absurd h hs
        · have hhead := (List.isChain_cons.1 hps.apart).1
          exact List.isChain_cons.2 ⟨hhead, hps.of_cons.apart⟩

/-- The pieces of clean tokens are joined. -/
theorem isJoined_pieces (hts : ∀ t ∈ ts, IsClean t) :
    IsJoined (pieces ts) := by
  apply isJoined_joinPlain
  · intro p hp
    obtain ⟨t, ht, rfl⟩ := List.mem_map.1 (List.mem_of_mem_filter hp)
    exact ⟨(hts t ht).text, fun l hl => (hts t ht).shown hl⟩
  · intro p hp
    exact (List.mem_filter.1 hp).2

-- ========================================================= reading back

/-- The text before a character is told from what follows. -/
theorem eq_of_append_cons {c : Char} {s s' r r' : Text} (hs : c ∉ s)
    (hs' : c ∉ s') (h : s ++ c :: r = s' ++ c :: r') : s = s' ∧ r = r' := by
  have hcut := Text.cutAt?_append (w := [c]) (Text.avoids_of_not_mem hs) r
  have hcut' := Text.cutAt?_append (w := [c]) (Text.avoids_of_not_mem hs') r'
  simp only [List.singleton_append, h] at hcut hcut'
  simpa using hcut.symm.trans hcut'

/-- Behind a text without a label comes a '<', or nothing. -/
theorem IsJoined.head?_markup (h : IsJoined (p :: ps)) (hp : p.1 = none) :
    ∀ c ∈ (ps.flatMap Piece.markup).head?, c = '<' := by
  have hnext := (List.isChain_cons.1 h.apart).1
  rcases ps with _ | ⟨⟨_ | l, s⟩, ps⟩
  · simp
  · exact absurd rfl (hnext _ rfl hp)
  · intro c hc
    exact (Option.some.inj hc).symm

/-- Pieces that can be seen leave something in the markup. -/
theorem IsJoined.markup_ne_nil (h : IsJoined (p :: ps)) :
    (p :: ps).flatMap Piece.markup ≠ [] := by
  have hp := h.visible p List.mem_cons_self
  rw [List.flatMap_cons]
  apply List.append_ne_nil_of_left_ne_nil
  rcases p with ⟨_ | l, s⟩
  · simpa [Piece.isVisible, Piece.markup] using hp
  · exact List.cons_ne_nil _ _

/-- A text without a label is the markup up to the next '<'. -/
theorem takeWhile_markup {s r : Text} (hs : '<' ∉ s)
    (hr : ∀ c ∈ r.head?, c = '<') :
    (s ++ r).takeWhile (· != '<') = s := by
  rw [List.takeWhile_append_of_pos]
  · rcases r with _ | ⟨c, r⟩
    · simp
    · simp [hr c rfl]
  · intro c hc
    simpa using fun h : c = '<' => hs (h ▸ hc)

/-- Markup that begins with a mark is not that of a text. -/
theorem text_append_ne {s r t : Text} (hs : '<' ∉ s) (hne : s ≠ []) :
    s ++ r ≠ '<' :: t := by
  intro h
  obtain ⟨c, s, rfl⟩ := List.exists_cons_of_ne_nil hne
  exact hs (List.mem_cons.2 (Or.inl (List.cons.inj h).1.symm))

/-- The first piece is told by the markup. -/
theorem eq_of_markup_append {r r' : Text} (hp : p.IsClean)
    (hq : q.IsClean) (hvp : p.isVisible) (hvq : q.isVisible)
    (hr : p.1 = none → ∀ c ∈ r.head?, c = '<')
    (hr' : q.1 = none → ∀ c ∈ r'.head?, c = '<')
    (h : p.markup ++ r = q.markup ++ r') : p = q ∧ r = r' := by
  have hne {s : Text} (hs : Piece.isVisible (none, s)) : s ≠ [] := by
    simpa [Piece.isVisible] using hs
  rcases p with ⟨_ | l, s⟩ <;> rcases q with ⟨_ | m, t⟩
  · have hst : s = t := by
      have htake := congrArg (List.takeWhile (· != '<')) h
      exact (takeWhile_markup hp.1 (hr rfl)).symm.trans
        (htake.trans (takeWhile_markup hq.1 (hr' rfl)))
    subst hst
    exact ⟨rfl, List.append_cancel_left h⟩
  · exact absurd h (text_append_ne hp.1 (hne hvp))
  · exact absurd h.symm (text_append_ne hq.1 (hne hvq))
  · simp only [Piece.markup, List.append_assoc] at h
    have hl := eq_of_append_cons (hp.2 l rfl).1 (hq.2 m rfl).1
      (List.append_cancel_left h)
    have ht := eq_of_append_cons hp.1 hq.1 (List.cons.inj hl.2).2
    obtain rfl : l = m := String.toList_inj.1 hl.1
    obtain rfl : s = t := ht.1
    have hrest : spanClosing.drop 1 ++ r = spanClosing.drop 1 ++ r' := ht.2
    exact ⟨rfl, List.append_cancel_left hrest⟩

/-- Joined pieces are told by their markup. -/
theorem eq_of_markup_eq (hps : IsJoined ps) (hqs : IsJoined qs)
    (h : ps.flatMap Piece.markup = qs.flatMap Piece.markup) : ps = qs := by
  induction ps generalizing qs with
  | nil =>
      rcases qs with _ | ⟨q, qs⟩
      · rfl
      · exact absurd h.symm hqs.markup_ne_nil
  | cons p ps ih =>
      rcases qs with _ | ⟨q, qs⟩
      · exact absurd h hps.markup_ne_nil
      · have hp := List.mem_cons_self (a := p) (l := ps)
        have hq := List.mem_cons_self (a := q) (l := qs)
        rw [List.flatMap_cons, List.flatMap_cons] at h
        obtain ⟨rfl, hmore⟩ := eq_of_markup_append (hps.clean p hp)
          (hqs.clean q hq) (hps.visible p hp) (hqs.visible q hq)
          hps.head?_markup hqs.head?_markup h
        rw [ih hps.of_cons hqs.of_cons hmore]

/-- The markup tells all there is to know of the pieces. -/
theorem ofTokens_eq_iff (hts : ∀ t ∈ ts, IsClean t)
    (hus : ∀ u ∈ us, IsClean u) :
    ofTokens ts = ofTokens us ↔ pieces ts = pieces us := by
  rw [ofTokens_eq, ofTokens_eq]
  constructor
  · exact eq_of_markup_eq (isJoined_pieces hts) (isJoined_pieces hus)
  · intro h
    rw [h]

-- ========================================================= the result

/-- The markup of a source, with its marks taken off, is the source, and
holds one closing mark for each token that shows a label. And markup tells
tokens apart that differ in what can be seen of them. -/
theorem markup_faithful :
    (∀ (rules : List Rule) (source : Text) (ts : List Token),
        (∀ r ∈ rules, ∀ l ∈ r.label, IsLabel l) → '<' ∉ source →
        tokenize rules source = .ok ts →
        ∃ html, ofSource rules source = .ok html ∧ strip html = source
          ∧ Text.occurrences spanClosing html
            = ts.countP (·.shown?.isSome))
      ∧ ∀ ts us : List Token, (∀ t ∈ ts, IsClean t) → (∀ u ∈ us, IsClean u) →
          (ofTokens ts = ofTokens us ↔ pieces ts = pieces us) := by
  refine ⟨fun rules source ts hrules hsource h => ?_,
    fun ts us hts hus => ofTokens_eq_iff hts hus⟩
  obtain ⟨hts, hstrip⟩ := strip_ofTokens_of_tokenize hrules hsource h
  refine ⟨ofTokens ts, ?_, hstrip, occurrences_ofTokens hts⟩
  unfold ofSource
  rw [h]
  rfl

/-- A comment with the end of a mark in it, and two rows of tokens that
look the same. -/
theorem markup_faithful_css :
    (∃ html, ofSource Language.css.rules "/*\">*/a:b".toList = .ok html
        ∧ strip html = "/*\">*/a:b".toList
        ∧ Text.occurrences spanClosing html = 3)
      ∧ ofTokens [⟨some "", "a".toList, ⟨0, 0, 0⟩, ⟨0, 1, 1⟩⟩,
          ⟨none, "b".toList, ⟨0, 1, 1⟩, ⟨0, 2, 2⟩⟩]
        = ofTokens [⟨none, "ab".toList, ⟨0, 0, 0⟩, ⟨0, 2, 2⟩⟩] := by
  have hrules : ∀ r ∈ Language.css.rules, ∀ l ∈ r.label, IsLabel l := by
    decide +kernel
  have h : tokenize Language.css.rules "/*\">*/a:b".toList
      = .ok [⟨some "comment", "/*\">*/".toList, ⟨0, 0, 0⟩, ⟨0, 6, 6⟩⟩,
        ⟨some "keyword", "a".toList, ⟨0, 6, 6⟩, ⟨0, 7, 7⟩⟩,
        ⟨some "value", ":b".toList, ⟨0, 7, 7⟩, ⟨0, 9, 9⟩⟩] := by
    decide +kernel
  refine ⟨markup_faithful.1 _ _ _ hrules (by decide) h,
    (markup_faithful.2 _ _ ?_ ?_).2 (by decide)⟩
  · decide
  · decide

end Highlight.Html
