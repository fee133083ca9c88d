/-
Scans of a text and of its escaped form, side by side.

The offsets of the two scans drift apart by what the text before them
grows (`escapedOffset`). At the offset that belongs to it every token of
the first scan has a row of tokens in the second one: one token where a
rule matches or a character stays as it is, and where a special character
stands alone an ampersand, the name of an entity and a semicolon, none of
them with a label (`exists_path_of_lexed`). So the tokens with a label
correspond (`tokenize_escape`).
-/
import Highlight.Proofs.Escape.Runs
import Highlight.Proofs.Scan.Tiling

namespace Highlight

open Html (escape entityNames)
open Text (positionAt slice restAt lines below)

-- ========================================================== vocabulary

/-- A search with the pattern ends at the same place of both texts. -/
def Pattern.SearchEscapable (p : Pattern) : Prop :=
  ∀ t, '\n' ∉ t → ∃ o, p.searchEnd? t = .ok o
    ∧ p.searchEnd? (escape t)
      = .ok (o.map fun n => (escape (t.take n)).length)

/-- The patterns of the rule cannot tell a text from its escaped form. -/
def Rule.Escapable : Rule → Prop
  | .simple p _ => p.Escapable
  | .delimited p closing _ => p.Escapable ∧ closing.SearchEscapable

namespace Scan

/-- Rules that treat a text like its escaped form: each of them does, the
names of entities are taken by rules without a label, and no rule takes a
semicolon. -/
structure Escapable (rules : List Rule) : Prop where
  each : ∀ r ∈ rules, r.Escapable
  names : ∀ w ∈ entityNames, ∃ k p,
    IsFirst rules (w ++ [';']) k (.simple p none) w.length
  semicolon : Unmatched rules [';']

/-- The offset in the escaped text that belongs to an offset. -/
def escapedOffset (source : Text) (o : Nat) : Nat :=
  (escape (source.take o)).length

/-- The tokens with a label: label, text and row. -/
def classified (ts : List Token) : List (Option String × Text × Nat) :=
  (ts.filter (·.label.isSome)).map fun t => (t.label, t.text, t.start.row)

/-- The same with the text escaped. -/
def escapeText : Option String × Text × Nat → Option String × Text × Nat
  | (label, text, row) => (label, escape text, row)

-- ============================================================== offsets

variable {rules : List Rule} {source : Text}

/-- A piece of the text is as long as its escaped form. -/
theorem escapedOffset_add (source : Text) (o n : Nat) :
    escapedOffset source (o + n)
      = escapedOffset source o + (escape ((source.drop o).take n)).length := by
  unfold escapedOffset
  rw [List.take_add, Html.escape_append, List.length_append]

/-- The ends of both texts correspond. -/
theorem escapedOffset_length (source : Text) :
    escapedOffset source source.length = (escape source).length := by
  unfold escapedOffset
  rw [List.take_length]

/-- The rest at a corresponding offset is the escaped rest. -/
theorem drop_escapedOffset (source : Text) (o : Nat) :
    (escape source).drop (escapedOffset source o)
      = escape (source.drop o) :=
  Html.drop_escape source o

/-- What is left of the line is escaped too, as no line feed comes in. -/
theorem restAt_escapedOffset (source : Text) (o : Nat) :
    restAt (escape source) (escapedOffset source o)
      = escape (restAt source o) := by
  unfold restAt
  rw [drop_escapedOffset, Html.firstLine_escape]

/-- Pieces between corresponding offsets are the escaped pieces. -/
theorem slice_escapedOffset (source : Text) (o n : Nat) :
    slice (escape source) (escapedOffset source o)
        (escapedOffset source (o + n))
      = escape (slice source o (o + n)) := by
  rw [escapedOffset_add, Text.slice_eq_take_drop, drop_escapedOffset,
    Html.take_escape, Text.slice_eq_take_drop]

/-- Escaping adds no rows. -/
theorem row_escapedOffset (source : Text) (o : Nat) :
    (positionAt (escape source) (escapedOffset source o)).row
      = (positionAt source o).row := by
  show Text.lineFeeds ((escape source).take (escapedOffset source o))
    = Text.lineFeeds (source.take o)
  unfold escapedOffset
  rw [Html.take_escape, Html.lineFeeds_escape]

/-- An offset before the end stays before the end. -/
theorem escapedOffset_lt {o : Nat} (h : o < source.length) :
    escapedOffset source o < (escape source).length := by
  have hdrop := drop_escapedOffset source o
  have hle := Html.length_le_escape (source.drop o)
  rw [← hdrop, List.length_drop, List.length_drop] at hle
  omega

-- ======================================================= rules at a place

theorem Escapable.opening (h : Escapable rules) {r : Rule} (hr : r ∈ rules) :
    r.opening.Escapable := by
  have := h.each r hr
  cases r with
  | simple p label => exact this
  | delimited p closing label => exact this.1

/-- A pattern that does not match is not made to match by escaping. -/
theorem match_none_escape {p : Pattern} (hp : p.Escapable) {line : Text}
    (hline : '\n' ∉ line) (h : p.matchLength? line = .ok none) :
    p.matchLength? (escape line) = .ok none := by
  obtain ⟨o, ho, hescape⟩ := hp.escape_eq line hline
  rw [h] at ho
  cases ho
  exact hescape

/-- The first rule at a place is the first one in the escaped text. -/
theorem IsFirst.escape (hrules : Escapable rules) {line : Text} {k n : Nat}
    {rule : Rule} (hline : '\n' ∉ line) (h : IsFirst rules line k rule n) :
    IsFirst rules (escape line) k rule (escape (line.take n)).length where
  rule_eq := h.rule_eq
  matches_here := by
    obtain ⟨o, ho, hescape⟩ := (hrules.opening
      (List.mem_of_getElem? h.rule_eq)).escape_eq line hline
    rw [h.matches_here] at ho
    cases ho
    exact hescape
  none_before j hj r hr := match_none_escape
    (hrules.opening (List.mem_of_getElem? hr)) hline (h.none_before j hj r hr)

/-- A line that no rule matches is not matched when it is escaped. -/
theorem Unmatched.escape (hrules : Escapable rules) {line : Text}
    (hline : '\n' ∉ line) (h : Unmatched rules line) :
    Unmatched rules (escape line) :=
  fun r hr => match_none_escape (hrules.opening hr) hline (h r hr)

/-- No rule matches at a special character. -/
theorem unmatched_special (hrules : Escapable rules) {c : Char}
    (hc : c ∈ Html.specials) {t : Text} (ht : '\n' ∉ t) :
    Unmatched rules (c :: t) :=
  fun _ hr => (hrules.opening hr).special c hc t ht

/-- The name of an entity is taken by a rule without a label. -/
theorem isFirst_name (hrules : Escapable rules) {w : Text}
    (hw : w ∈ entityNames) {t : Text} (ht : '\n' ∉ t) :
    ∃ k p, IsFirst rules (w ++ ';' :: t) k (.simple p none) w.length := by
  obtain ⟨k, p, h⟩ := hrules.names w hw
  have hw' := List.mem_cons_of_mem [] hw
  refine ⟨k, p, h.rule_eq, ?_, fun j hj r hr => ?_⟩
  · rw [(hrules.opening (List.mem_of_getElem? h.rule_eq)).entity w hw' t ht]
    exact h.matches_here
  · rw [(hrules.opening (List.mem_of_getElem? hr)).entity w hw' t ht]
    exact h.none_before j hj r hr

/-- No rule begins with the semicolon that ends an entity. -/
theorem unmatched_semicolon (hrules : Escapable rules) {t : Text}
    (ht : '\n' ∉ t) : Unmatched rules (';' :: t) := by
  intro r hr
  have := (hrules.opening hr).entity [] List.mem_cons_self t ht
  exact this.trans (hrules.semicolon r hr)

-- ============================================================= closings

/-- A closing is found at the same place of both texts. -/
theorem closes_escape {closing : Pattern} (hc : closing.SearchEscapable)
    {line : Text} {more : List Text} {n : Nat}
    (h : Closes closing (line :: more) n)
    (hclean : ∀ l ∈ line :: more, '\n' ∉ l) :
    Closes closing ((line :: more).map escape)
      (escape ((line ++ below more).take n)).length := by
  generalize hls : line :: more = ls at h
  induction h generalizing line more with
  | @found line rest n h =>
      cases hls
      obtain ⟨o, ho, hescape⟩ := hc line (hclean line List.mem_cons_self)
      rw [h] at ho
      cases ho
      rw [List.take_append_of_le_length (Pattern.searchEnd?_le h)]
      exact .found hescape
  | @later line rest n h hmore hn ih =>
      cases hls
      obtain ⟨o, ho, hescape⟩ := hc line (hclean line List.mem_cons_self)
      rw [h] at ho
      cases ho
      obtain ⟨next, rest, rfl⟩ := List.exists_cons_of_ne_nil hmore
      have hlater := ih (fun l hl => hclean l (List.mem_cons_of_mem _ hl)) rfl
      have htake : (line ++ below (next :: rest)).take (line.length + 1 + n)
          = line ++ '\n' :: (next ++ below rest).take n := by
        rw [Text.below_cons, Text.take_append_lineFeed]
      rw [htake, Html.escape_append, Html.escape_cons, List.length_append,
        List.length_append, ← Nat.add_assoc]
      exact .later hescape (by simp) hlater
  | @unclosed line h =>
      cases hls
      obtain ⟨o, ho, hescape⟩ := hc line (hclean line List.mem_cons_self)
      rw [h] at ho
      cases ho
      rw [Text.below_nil, List.append_nil, List.take_length]
      exact .unclosed hescape

/-- A delimited token closes at the corresponding place. -/
theorem closes_lines_escape {closing : Pattern}
    (hc : closing.SearchEscapable) {t : Text} {n : Nat}
    (h : Closes closing (lines t) n) :
    Closes closing (lines (escape t)) (escape (t.take n)).length := by
  obtain ⟨more, hmore⟩ := Text.lines_eq_cons t
  have hclean : ∀ l ∈ lines t, '\n' ∉ l :=
    fun l hl => Text.lineFeed_not_mem_of_mem_lines hl
  have hjoin := Text.firstLine_append_below hmore
  rw [hmore] at h hclean
  have := closes_escape hc h hclean
  rw [hjoin] at this
  rw [Html.lines_escape, hmore]
  exact this

-- ============================================================== tokens

/-- So it is as long as its escaped text. -/
theorem Extends.escape {o n m : Nat} {rule : Rule} (hr : rule.Escapable)
    (h : Extends source o rule n m) :
    Extends (Html.escape source) (escapedOffset source o) rule
      (Html.escape ((source.drop o).take n)).length
      (Html.escape ((source.drop o).take m)).length := by
  cases h with
  | simple => exact .simple
  | @delimited p closing label n m hc =>
      have hmore := closes_lines_escape hr.2 hc
      rw [← drop_escapedOffset, escapedOffset_add] at hmore
      rw [List.take_add, Html.escape_append, List.length_append,
        List.drop_drop]
      exact .delimited hmore

/-- Labels, texts and rows of two pieces follow each other. -/
theorem classified_append (ts us : List Token) :
    classified (ts ++ us) = classified ts ++ classified us := by
  unfold classified
  rw [List.filter_append, List.map_append]

/-- The token of the escaped text that belongs to a token. -/
theorem classified_tokenAt (label : Option String) (o n : Nat) :
    classified [tokenAt (Html.escape source) label (escapedOffset source o)
        (escapedOffset source (o + n))]
      = (classified [tokenAt source label o (o + n)]).map escapeText := by
  cases label with
  | none => rfl
  | some label =>
      show [(some label, slice (Html.escape source) _ _,
          (positionAt (Html.escape source) _).row)]
        = [(some label, Html.escape (slice source o (o + n)),
          (positionAt source o).row)]
      rw [slice_escapedOffset, row_escapedOffset]

/-- Two runs of a scan make one. -/
theorem Path.append {a b c : Nat} {ts us : List Token}
    (h : Path rules source a ts b) (h' : Path rules source b us c) :
    Path rules source a (ts ++ us) c := by
  induction h with
  | nil o => exact h'
  | cons ht _ ih => exact .cons ht (ih h')

/-- A token of the text is a token of the escaped text. -/
theorem lexed_escape (hrules : Escapable rules) {o k n m : Nat}
    {rule : Rule} (h : IsFirst rules (restAt source o) k rule n)
    (hn : 0 < n) (hm : Extends source o rule n m) :
    Lexed rules (Html.escape source) (escapedOffset source o)
      (tokenAt (Html.escape source) rule.label (escapedOffset source o)
        (escapedOffset source (o + m))) := by
  have hle := Pattern.matchLength?_le h.matches_here
  have hclean : '\n' ∉ restAt source o := Text.lineFeed_not_mem_firstLine _
  have hfirst := h.escape hrules hclean
  rw [Text.take_restAt hle, Text.slice_eq_take_drop,
    ← restAt_escapedOffset] at hfirst
  have hextends := hm.escape
    (hrules.each rule (List.mem_of_getElem? h.rule_eq))
  have hpos : 0 < (Html.escape ((source.drop o).take n)).length := by
    have hgrow := Html.length_le_escape ((source.drop o).take n)
    have hrest := length_restAt_le source o
    rw [List.length_take, List.length_drop] at hgrow
    omega
  rw [escapedOffset_add]
  exact .matched hfirst hpos hextends

/-- The rest of the line begins with a piece that has no line feed. -/
theorem restAt_of_drop {o : Nat} {v r : Text} (h : source.drop o = v ++ r)
    (hv : '\n' ∉ v) : restAt source o = v ++ Text.firstLine r := by
  unfold restAt Text.firstLine
  rw [h]
  refine List.takeWhile_append_of_pos fun c hc => ?_
  rw [bne_iff_ne]
  exact fun e => hv (e ▸ hc)

theorem lt_of_drop {o : Nat} {c : Char} {r : Text}
    (h : source.drop o = c :: r) : o < source.length := by
  have hlen := congrArg List.length h
  rw [List.length_drop, List.length_cons] at hlen
  omega

/-- Behind a piece lies what follows it. -/
theorem drop_add_of_drop {o : Nat} {v r : Text}
    (h : source.drop o = v ++ r) : source.drop (o + v.length) = r := by
  rw [← List.drop_drop, h, List.drop_left]

/-- The tokens of an entity: an ampersand, its name and a semicolon. -/
theorem exists_path_of_entity (hrules : Escapable rules) {o : Nat}
    {w r : Text} (hw : w ∈ entityNames)
    (hdrop : source.drop o = '&' :: (w ++ ';' :: r)) :
    ∃ us, Path rules source o us (o + (w.length + 2))
      ∧ classified us = [] := by
  have hclean : '\n' ∉ w := by
    have hall : ∀ w ∈ entityNames, '\n' ∉ w := by decide
    exact hall w hw
  have hlen : 0 < w.length := by
    have hall : ∀ w ∈ entityNames, 0 < w.length := by decide
    exact hall w hw
  have hr := Text.lineFeed_not_mem_firstLine r
  have hdrop₁ : source.drop (o + 1) = w ++ ';' :: r :=
    drop_add_of_drop (v := ['&']) hdrop
  have hdrop₂ : source.drop (o + 1 + w.length) = ';' :: r :=
    drop_add_of_drop hdrop₁
  have hrest₀ := restAt_of_drop (v := '&' :: (w ++ [';'])) (r := r)
    (by rw [hdrop]; simp) (by simp [hclean])
  have hrest₁ := restAt_of_drop (v := w ++ [';']) (r := r)
    (by rw [hdrop₁]; simp) (by simp [hclean])
  have hrest₂ := restAt_of_drop (v := [';']) (r := r) hdrop₂ (by decide)
  rw [List.append_assoc, List.singleton_append] at hrest₁
  -- One token for each of the three: no rule takes the ampersand or the
  -- semicolon, and the name is plain.
  obtain ⟨k, p, hname⟩ := isFirst_name hrules hw hr
  have ht₀ : Lexed rules source o (tokenAt source none o (o + 1)) := by
    refine .unmatched ?_ (lt_of_drop hdrop)
    rw [hrest₀]
    exact unmatched_special hrules (by decide) (by simp [hclean, hr])
  have ht₁ : Lexed rules source (o + 1)
      (tokenAt source none (o + 1) (o + 1 + w.length)) := by
    rw [← hrest₁] at hname
    exact .matched hname hlen .simple
  have ht₂ : Lexed rules source (o + 1 + w.length)
      (tokenAt source none (o + 1 + w.length) (o + 1 + w.length + 1)) := by
    refine .unmatched ?_ (lt_of_drop hdrop₂)
    rw [hrest₂]
    exact unmatched_semicolon hrules hr
  have hstop : o + 1 + w.length + 1 = o + (w.length + 2) := by omega
  rw [hstop] at ht₂
  exact ⟨_, .cons ht₀ (.cons ht₁ (.cons ht₂ (.nil _))), rfl⟩

/-- A special character that stands alone becomes three tokens without a
label. -/
theorem exists_path_of_special (hrules : Escapable rules) {o : Nat}
    {c : Char} (ho : source[o]? = some c) (hc : c ∈ Html.specials) :
    ∃ us, Path rules (Html.escape source) (escapedOffset source o) us
        (escapedOffset source (o + 1))
      ∧ classified us = [] := by
  obtain ⟨hlt, hget⟩ := List.getElem?_eq_some_iff.1 ho
  obtain ⟨w, hw, he⟩ := Html.escapeChar_of_mem hc
  have hcons : source.drop o = c :: source.drop (o + 1) := by
    rw [List.drop_eq_getElem_cons hlt, hget]
  have hdrop : (Html.escape source).drop (escapedOffset source o)
      = '&' :: (w ++ ';' :: Html.escape (source.drop (o + 1))) := by
    rw [drop_escapedOffset, hcons, Html.escape_cons, he]
    simp
  have hstop : escapedOffset source (o + 1)
      = escapedOffset source o + (w.length + 2) := by
    rw [escapedOffset_add, hcons]
    show _ + (Html.escape [c]).length = _
    rw [Html.escape_cons, he]
    simp
  rw [hstop]
  exact exists_path_of_entity hrules hw hdrop

/-- The tokens of the escaped text that belong to a token. -/
theorem exists_path_of_lexed (hrules : Escapable rules) {o : Nat}
    {t : Token} (h : Lexed rules source o t) :
    ∃ us, Path rules (Html.escape source) (escapedOffset source o) us
        (escapedOffset source t.stop.offset)
      ∧ classified us = (classified [t]).map escapeText := by
  cases h with
  | @matched k n m rule h hn hm =>
      refine ⟨_, .cons (lexed_escape hrules h hn hm) (.nil _), ?_⟩
      exact classified_tokenAt rule.label o m
  | unmatched h ho =>
      have hget := List.getElem?_eq_getElem ho
      by_cases hc : source[o] ∈ Html.specials
      · exact exists_path_of_special hrules hget hc
      · have hone : escapedOffset source (o + 1)
            = escapedOffset source o + 1 := by
          rw [escapedOffset_add, List.drop_eq_getElem_cons ho]
          show _ + (Html.escape [source[o]]).length = _
          rw [Html.escape_cons, Html.escapeChar_of_not_mem hc]
          rfl
        have hnone : Unmatched rules
            (restAt (Html.escape source) (escapedOffset source o)) := by
          rw [restAt_escapedOffset]
          exact h.escape hrules (Text.lineFeed_not_mem_firstLine _)
        have hlexed := Lexed.unmatched hnone (escapedOffset_lt ho)
        rw [← hone] at hlexed
        exact ⟨_, .cons hlexed (.nil _), rfl⟩

/-- The tokens of the escaped text that belong to the tokens on a path. -/
theorem exists_path_of_path (hrules : Escapable rules) {o e : Nat}
    {ts : List Token} (h : Path rules source o ts e) :
    ∃ us, Path rules (Html.escape source) (escapedOffset source o) us
        (escapedOffset source e)
      ∧ classified us = (classified ts).map escapeText := by
  induction h with
  | nil o => exact ⟨[], .nil _, rfl⟩
  | @cons o e t ts hlex hts ih =>
      obtain ⟨us, hus, hclass⟩ := exists_path_of_lexed hrules hlex
      obtain ⟨vs, hvs, hclass'⟩ := ih
      refine ⟨us ++ vs, hus.append hvs, ?_⟩
      rw [classified_append, hclass, hclass', ← List.map_append,
        ← classified_append]
      rfl

/-- Escapable rules finish every scan. -/
theorem exists_tokenize_of_escapable (hrules : Escapable rules)
    (source : Text) : ∃ ts, tokenize rules source = .ok ts := by
  refine exists_tokenize
    (fun r hr line hline => (hrules.opening hr).ne_zero line hline)
    (fun r hr x => ?_) source
  rintro ⟨line, hline, hx | ⟨p, closing, label, rfl, hx⟩⟩
  · obtain ⟨o, ho, -⟩ := (hrules.opening hr).escape_eq line hline
    rw [hx] at ho
    cases ho
  · obtain ⟨o, ho, -⟩ := (hrules.each _ hr).2 line hline
    rw [hx] at ho
    cases ho

end Scan

end Highlight
