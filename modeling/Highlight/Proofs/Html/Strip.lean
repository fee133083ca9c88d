/-
Taking the marks off the markup of tokens gives their texts back, as long
as no text holds a '<' and no label a '<' or a double quote.

A mark is read off the front of any rest (`afterMark?_opening`,
`afterMark?_closing`), and text without a '<' is passed over one character
at a time, so the tokens are read back one by one, whatever their texts
say.
-/
import Highlight.Html.Page
import Highlight.Proofs.Scan.Tiling
import Highlight.Proofs.Text.Occurrence

namespace Highlight

namespace Html

-- ========================================================== vocabulary

/-- A label that ends at the double quote behind it and holds nothing that
looks like a mark. -/
def IsLabel (l : String) : Prop := '"' ∉ l.toList ∧ '<' ∉ l.toList

instance (l : String) : Decidable (IsLabel l) :=
  inferInstanceAs (Decidable (_ ∧ _))

/-- A token whose markup can be read back. -/
structure IsClean (t : Token) : Prop where
  text : '<' ∉ t.text
  label : ∀ l ∈ t.label, IsLabel l

instance (t : Token) : Decidable (IsClean t) :=
  decidable_of_iff ('<' ∉ t.text ∧ ∀ l ∈ t.label, IsLabel l)
    ⟨fun h => ⟨h.1, h.2⟩, fun h => ⟨h.text, h.label⟩⟩

variable {s t r : Text}

-- ======================================================= reading a mark

/-- A head is taken off the text that begins with it. -/
theorem after?_append (head t : Text) : after? head (head ++ t) = some t := by
  induction head with
  | nil => simp [after?]
  | cons c head ih => simp [after?, ih]

/-- An opening mark in front of any rest is read as a whole. -/
theorem afterMark?_opening {l : Text} (hl : '"' ∉ l) (r : Text) :
    afterMark? (spanOpening ++ (l ++ (spanOpeningEnd ++ r))) = some r := by
  have hskip : (l ++ (spanOpeningEnd ++ r)).dropWhile (· != '"')
      = spanOpeningEnd ++ r := by
    rw [List.dropWhile_append_of_pos]
    · rfl
    · intro c hc
      simpa using fun h : c = '"' => hl (h ▸ hc)
  unfold afterMark?
  rw [after?_append]
  simp only [hskip, after?_append]

/-- A closing mark is taken off as a whole. -/
theorem afterMark?_closing (r : Text) :
    afterMark? (spanClosing ++ r) = some r := by
  have hopening : after? spanOpening (spanClosing ++ r) = none := rfl
  unfold afterMark?
  rw [hopening]
  exact after?_append spanClosing r

/-- Every mark begins with a '<'. -/
theorem afterMark?_cons {c : Char} (hc : c ≠ '<') (t : Text) :
    afterMark? (c :: t) = none := by
  have hhead (w : Text) : after? ('<' :: w) (c :: t) = none := by
    simp [after?, hc.symm]
  unfold afterMark?
  have hopening : after? spanOpening (c :: t) = none := hhead _
  rw [hopening]
  exact hhead _

-- ===================================================== taking marks off

theorem strip_nil : strip [] = [] := by
  unfold strip
  rfl

/-- A character that begins no mark stays. -/
theorem strip_of_eq_none {c : Char} (h : afterMark? (c :: t) = none) :
    strip (c :: t) = c :: strip t := by
  rw [strip]
  split
  · next r h' => rw [h] at h'; cases h'
  · rfl

/-- Only an angle bracket begins a mark. -/
theorem strip_cons {c : Char} (hc : c ≠ '<') (t : Text) :
    strip (c :: t) = c :: strip t :=
  strip_of_eq_none (afterMark?_cons hc t)

/-- A mark is left out. -/
theorem strip_of_afterMark? (h : afterMark? t = some r) :
    strip t = strip r := by
  rw [strip]
  split
  · next r' h' =>
    rw [h] at h'
    cases h'
    rfl
  · next h' => rw [h] at h'; cases h'

/-- Text without a '<' is passed over. -/
theorem strip_append (hs : '<' ∉ s) (r : Text) :
    strip (s ++ r) = s ++ strip r := by
  induction s with
  | nil => rfl
  | cons c s ih =>
      rw [List.mem_cons, not_or] at hs
      rw [List.cons_append, strip_cons (Ne.symm hs.1), ih hs.2]
      rfl

/-- A text without angle brackets stays as it is. -/
theorem strip_of_not_mem (hs : '<' ∉ s) : strip s = s := by
  have h := strip_append hs []
  rwa [strip_nil, List.append_nil] at h

/-- A token in a span is its text between two marks. -/
theorem ofToken_of_shown {t : Token} {l : String} (h : t.shown? = some l) :
    ofToken t = spanOpening ++ (l.toList
      ++ (spanOpeningEnd ++ (t.text ++ spanClosing))) := by
  unfold ofToken
  rw [h]
  simp only [List.append_assoc]

/-- A token that is not shown adds its text alone. -/
theorem ofToken_of_not_shown {t : Token} (h : t.shown? = none) :
    ofToken t = t.text := by
  unfold ofToken
  rw [h]

/-- The label that is shown can stand in an attribute. -/
theorem IsClean.shown {t : Token} (ht : IsClean t) {l : String}
    (h : t.shown? = some l) : IsLabel l :=
  ht.label l (Option.mem_filter_iff.1 h).1

/-- One token is read back in front of any rest. -/
theorem strip_ofToken_append {t : Token} (ht : IsClean t) (r : Text) :
    strip (ofToken t ++ r) = t.text ++ strip r := by
  rcases h : t.shown? with _ | l
  · rw [ofToken_of_not_shown h, strip_append ht.text]
  · rw [ofToken_of_shown h]
    simp only [List.append_assoc]
    calc strip (spanOpening ++ (l.toList ++ (spanOpeningEnd
          ++ (t.text ++ (spanClosing ++ r)))))
        = strip (t.text ++ (spanClosing ++ r)) :=
          strip_of_afterMark? (afterMark?_opening (ht.shown h).1 _)
      _ = t.text ++ strip (spanClosing ++ r) := strip_append ht.text _
      _ = t.text ++ strip r := by
          rw [strip_of_afterMark? (afterMark?_closing r)]

/-- The marks of tokens are taken off again, and nothing else is. -/
theorem strip_ofTokens {ts : List Token} (hts : ∀ t ∈ ts, IsClean t) :
    strip (ofTokens ts) = ts.flatMap (·.text) := by
  induction ts with
  | nil => exact strip_nil
  | cons t ts ih =>
      rw [List.forall_mem_cons] at hts
      have hone := strip_ofToken_append hts.1 (ofTokens ts)
      rw [ih hts.2] at hone
      exact hone

-- ==================================================== counting the marks

/-- A closing mark counts once: none begins inside another. -/
theorem occurrences_spanClosing (r : Text) :
    Text.occurrences spanClosing (spanClosing ++ r)
      = Text.occurrences spanClosing r + 1 := by
  have hself : Text.Avoids spanClosing (spanClosing.drop 1) := by decide
  have htail := Text.occurrences_append hself r
  have hcons : spanClosing ++ r = '<' :: (spanClosing.drop 1 ++ r) := rfl
  rw [hcons, Text.occurrences, List.tails_cons, List.countP_cons_of_pos]
  · exact congrArg (· + 1) htail
  · exact List.isPrefixOf_iff_prefix.2 (List.prefix_append spanClosing r)

/-- A closing mark stands behind every token that shows a label, and
nowhere else. -/
theorem occurrences_ofTokens {ts : List Token}
    (hts : ∀ t ∈ ts, IsClean t) :
    Text.occurrences spanClosing (ofTokens ts)
      = ts.countP (·.shown?.isSome) := by
  have hplain {s : Text} (hs : '<' ∉ s) : Text.Avoids spanClosing s :=
    Text.avoids_of_not_mem hs
  have hopening : Text.Avoids spanClosing spanOpening := by decide
  induction ts with
  | nil => rfl
  | cons t ts ih =>
      rw [List.forall_mem_cons] at hts
      obtain ⟨ht, hts⟩ := hts
      have hcons : ofTokens (t :: ts) = ofToken t ++ ofTokens ts := rfl
      rcases h : t.shown? with _ | l
      · rw [hcons, ofToken_of_not_shown h,
          Text.occurrences_append (hplain ht.text), ih hts,
          List.countP_cons_of_neg (by simp [h])]
      · have havoids : Text.Avoids spanClosing
            (spanOpening ++ (l.toList ++ (spanOpeningEnd ++ t.text))) :=
          hopening.append ((hplain (ht.shown h).2).append
            (Text.Avoids.append (by decide) (hplain ht.text)))
        have hsplit : ofToken t ++ ofTokens ts
            = spanOpening ++ (l.toList ++ (spanOpeningEnd ++ t.text))
              ++ (spanClosing ++ ofTokens ts) := by
          rw [ofToken_of_shown h]
          simp only [List.append_assoc]
        rw [hcons, hsplit, Text.occurrences_append havoids,
          occurrences_spanClosing, ih hts,
          List.countP_cons_of_pos (by simp [h])]

end Html

-- =================================================== the tokens of a scan

namespace Scan

variable {rules : List Rule} {source : Text}

/-- The texts along a path are the source between its ends. -/
theorem Path.flatMap_text {o e : Nat} {ts : List Token}
    (h : Path rules source o ts e) :
    ts.flatMap (·.text) = Text.slice source o e := by
  induction h with
  | nil o => simp [Text.slice]
  | @cons o e t ts ht hts ih =>
      obtain ⟨m, -, -, heq⟩ := ht.bounds
      have hstop : t.stop.offset = o + m := by rw [heq]; rfl
      have htext : t.text = Text.slice source o (o + m) := by rw [heq]; rfl
      rw [hstop] at ih hts
      obtain ⟨k, rfl⟩ := Nat.exists_eq_add_of_le hts.le
      rw [List.flatMap_cons, ih, htext, Text.slice_eq_take_drop,
        Text.slice_eq_take_drop, Nat.add_assoc, Text.slice_eq_take_drop,
        List.take_add, List.drop_drop]

/-- The label of a token is that of a rule. -/
theorem Lexed.exists_rule {o : Nat} {t : Token} (h : Lexed rules source o t)
    {l : String} (hl : l ∈ t.label) : ∃ r ∈ rules, l ∈ r.label := by
  cases h with
  | matched h hn hm => exact ⟨_, List.mem_of_getElem? h.rule_eq, hl⟩
  | unmatched h ho => cases hl

/-- A token is made of characters of the source. -/
theorem Lexed.text_subset {o : Nat} {t : Token}
    (h : Lexed rules source o t) : t.text ⊆ source := by
  obtain ⟨m, -, -, heq⟩ := h.bounds
  rw [heq]
  intro c hc
  exact List.mem_of_mem_take (List.mem_of_mem_drop hc)

/-- Tokens are clean if labels and source are. -/
theorem Lexed.isClean {o : Nat} {t : Token} (h : Lexed rules source o t)
    (hrules : ∀ r ∈ rules, ∀ l ∈ r.label, Html.IsLabel l)
    (hsource : '<' ∉ source) : Html.IsClean t where
  text hmem := hsource (h.text_subset hmem)
  label l hl := by
    obtain ⟨r, hr, hl⟩ := h.exists_rule hl
    exact hrules r hr l hl

end Scan

/-- The tokens of a finished scan, marked up and with the marks taken off
again, are the source. -/
theorem Html.strip_ofTokens_of_tokenize {rules : List Rule} {source : Text}
    {ts : List Token}
    (hrules : ∀ r ∈ rules, ∀ l ∈ r.label, IsLabel l)
    (hsource : '<' ∉ source) (h : tokenize rules source = .ok ts) :
    (∀ t ∈ ts, IsClean t) ∧ strip (ofTokens ts) = source := by
  have hpath := Scan.tokenize_ok_iff.1 h
  have hts : ∀ t ∈ ts, IsClean t := fun t ht =>
    (hpath.exists_lexed ht).isClean hrules hsource
  refine ⟨hts, ?_⟩
  rw [strip_ofTokens hts, hpath.flatMap_text]
  simp [Text.slice]

end Highlight
