/-
Listed words are whole words, unless a number stands right in front.

A rule sees only the text ahead of it, so no rule for words looks at the
character in front of a word. That the word begins at the edge of one
follows from what was there before. Every rule but that for numbers stops
at an edge (`Spec.stopsAtEdge_or_number`), and a character that no rule
takes is no word character. So along the whole scan a token begins with
word characters on both sides only where a number stops
(`Scan.Path.edge_or_number`).

A number does end in the middle of a word, as in `2nd` or `1if`, and the
word rules are tried on what is left of it then.
-/
import Highlight.Proofs.Language.Literals
import Highlight.Proofs.Language.Words
import Highlight.Proofs.Regex.Edge

namespace Highlight

open Text (isWordChar InWord restAt slice)

-- ========================================================== vocabulary

/-- The rule stands for a list of words. -/
def Spec.Layout.IsWordRule (l : Layout) (r : Rule) : Prop :=
  some r ∈ [l.keywords, l.constants, l.builtins]

/-- No word goes on behind the token. Where one goes on in front of it, a
number stops there with the character. Line feeds are no word characters,
so all this is within the line. -/
structure Scan.IsWhole (l : Spec.Layout) (source : Text) (ts : List Token)
    (t : Token) : Prop where
  behind : ∀ c, (source.drop t.stop.offset).head? = some c →
    isWordChar c = false
  before : ∀ c, (source.take t.start.offset).getLast? = some c →
    isWordChar c →
    ∃ u ∈ ts, MadeBy l.rules source l.number u ∧ u.stop = t.start
      ∧ u.text.getLast? = some c

-- =============================================================== rules

namespace Regex

variable {q : Char} {quotes : List Char} {t : Text} {n : Nat}

/-- A string is read up to its closing quote. -/
theorem getLast?_of_closingLength? (h : closingLength? q t = some n) :
    (t.take n).getLast? = some q := by
  induction t using closingLength?.induct q generalizing n with
  | case1 => cases h
  | case2 => cases h
  | case3 d t ih =>
      rw [closingLength?_pair] at h
      obtain ⟨m, hm, rfl⟩ := Option.map_eq_some_iff.1 h
      rw [Nat.add_comm, List.take_succ_cons, List.take_succ_cons,
        List.getLast?_cons_cons, List.getLast?_cons, ih hm]
      rfl
  | case4 t hq =>
      rw [closingLength?_cons hq, if_pos rfl] at h
      cases h
      rfl
  | case5 c t hc hq ih =>
      rw [closingLength?_cons hc, if_neg hq] at h
      obtain ⟨m, hm, rfl⟩ := Option.map_eq_some_iff.1 h
      rw [Nat.add_comm, List.take_succ_cons, List.getLast?_cons, ih hm]
      rfl

/-- A string ends with a quotation mark. -/
theorem getLast?_of_stringLength? (h : stringLength? quotes t = some n) :
    ∃ q ∈ quotes, (t.take n).getLast? = some q := by
  cases t with
  | nil => cases h
  | cons q t =>
      rw [stringLength?_cons] at h
      split at h
      · next hq =>
        obtain ⟨m, hm, rfl⟩ := Option.map_eq_some_iff.1 h
        refine ⟨q, hq, ?_⟩
        rw [Nat.add_comm, List.take_succ_cons, List.getLast?_cons,
          getLast?_of_closingLength? hm]
        rfl
      · cases h

end Regex

/-- The rule makes tokens of one line, none of which stops within a
word. -/
def Rule.StopsAtEdge (r : Rule) : Prop :=
  ∃ p label, r = .simple p label ∧ p.StopsAtEdge

namespace Spec

open Regex (stringLength?)

variable {spec : Spec} {label : String} {r : Rule} {rule : Option Rule}
  {l : Layout}

/-- A language without own rules has none compiled. -/
theorem Layout.Suits.own_eq_nil (hl : l.Suits spec)
    (hown : spec.rules = []) : l.own = [] := by
  have hlen := hl.own.length_eq
  rw [hown] at hlen
  exact List.length_eq_zero_iff.1 hlen.symm

/-- A standard rule stops at edges if its anchored pattern does. -/
theorem stopsAtEdge_of_standard {t : Text} {label : Option String}
    (hedge : ∀ q p, Pattern.compile t .none = .ok q → q.anchor = .ok p →
      p.StopsAtEdge)
    (h : Standard (t, label) r) : r.StopsAtEdge := by
  obtain ⟨q, hq, p, hp, -, rfl⟩ := h
  exact ⟨p, label, rfl, hedge q p hq hp⟩

/-- The boundary behind listed words is the edge of a word. -/
theorem stopsAtEdge_of_words {words : Option (List Text)}
    (h : Option.Rel (fun ws => Standard (wordsPattern ws, some label))
      (words.filter (· ≠ [])) rule) (hr : rule = some r) :
    r.StopsAtEdge := by
  obtain ⟨ws, hws, h⟩ := exists_of_rel_right (hr ▸ h)
  have hne : ws ≠ [] := by simpa using (Option.filter_eq_some_iff.1 hws).2
  exact stopsAtEdge_of_standard (fun _ _ hq hp =>
    Pattern.stopsAtEdge_of_listed hne (Pattern.node_of_words hne hq hp)) h

/-- So every rule for words stops at an edge. -/
theorem stopsAtEdge_of_isWordRule (hl : l.Suits spec)
    (hr : l.IsWordRule r) : r.StopsAtEdge := by
  simp only [Layout.IsWordRule, List.mem_cons, List.not_mem_nil,
    or_false] at hr
  rcases hr with hr | hr | hr
  · exact stopsAtEdge_of_words hl.keywords hr.symm
  · exact stopsAtEdge_of_words hl.constants hr.symm
  · exact stopsAtEdge_of_words hl.builtins hr.symm

/-- A comment stops at the end of its line. -/
theorem stopsAtEdge_of_comment {delimiter : Option Text}
    (h : Option.Rel (fun d => Standard (commentPattern d, some label))
      delimiter rule) (hr : rule = some r) : r.StopsAtEdge := by
  obtain ⟨d, -, h⟩ := exists_of_rel_right (hr ▸ h)
  exact stopsAtEdge_of_standard (fun _ _ hq hp =>
    Pattern.stopsAtEdge_of_comment (Pattern.node_of_comment hq hp)) h

/-- A quotation mark is no part of a word. -/
theorem isWordChar_of_mem_quotes {q : Char} (h : q ∈ spec.quotes) :
    isWordChar q = false := by
  have hquote : q = '"' ∨ q = '\'' := by
    rcases List.mem_append.1 h with h | h
    · exact .inl (by split at h <;> simp_all)
    · exact .inr (by split at h <;> simp_all)
  rcases hquote with rfl | rfl
  · decide
  · decide

/-- A string ends with a quote. -/
theorem stopsAtEdge_of_strings
    (h : Option.Rel (fun t => Standard (t, some label))
      spec.stringsPattern? rule) (hr : rule = some r) : r.StopsAtEdge := by
  obtain ⟨quotes, hquotes, p, rfl, hp⟩ :=
    exists_of_rel_right (hr ▸ rel_recognises_strings h)
  refine ⟨p, some label, rfl, fun t n ht hm => ?_⟩
  obtain ⟨q, hq, hlast⟩ := Regex.getLast?_of_stringLength?
    (Except.ok.inj ((hp t ht).symm.trans hm))
  rw [← Option.some.inj (Option.filter_eq_some_iff.1 hquotes).1] at hq
  exact Text.not_inWord_of_last hlast (isWordChar_of_mem_quotes hq)

/-- Without rules of its own, a language has only one rule that may stop
within a word, that for numbers. -/
theorem stopsAtEdge_or_number (hl : l.Suits spec) (hown : spec.rules = [])
    (hr : r ∈ l.rules) : r.StopsAtEdge ∨ r = l.number := by
  unfold Layout.rules at hr
  simp only [hl.own_eq_nil hown, List.singleton_append, List.mem_cons,
    List.mem_append, Option.mem_toList, List.not_mem_nil, or_false] at hr
  rcases hr with rfl | hr | hr | hr | rfl | hr | hr | rfl
  · exact .inl (stopsAtEdge_of_standard (fun _ _ hq hp =>
      Pattern.stopsAtEdge_of_blankRun
        (node_of_fixed (n := .blankRun) (by decide) hq hp)) hl.blank)
  · exact .inl (stopsAtEdge_of_words hl.keywords hr)
  · exact .inl (stopsAtEdge_of_words hl.constants hr)
  · exact .inl (stopsAtEdge_of_words hl.builtins hr)
  · exact .inr rfl
  · exact .inl (stopsAtEdge_of_strings hl.strings hr)
  · exact .inl (stopsAtEdge_of_comment hl.comment hr)
  · exact .inl (stopsAtEdge_of_standard (fun _ _ hq hp =>
      Pattern.stopsAtEdge_of_wordRun
        (node_of_fixed (n := .wordRun) (by decide) hq hp)) hl.wordRun)

/-- Where no rule of a language matches, no word character stands. -/
theorem any_head?_of_unmatched {line : Text} (hl : l.Suits spec)
    (h : Scan.Unmatched l.rules line) :
    line.head?.any isWordChar = false := by
  have hnone := h l.wordRun (by simp [Layout.rules])
  obtain ⟨q, hq, p, hp, -, hr⟩ := hl.wordRun
  rw [hr] at hnone
  exact Pattern.any_head?_of_no_wordRun
    (node_of_fixed (n := .wordRun) (by decide) hq hp) hnone

end Spec

-- =============================================================== scans

namespace Scan

variable {rules : List Rule} {source : Text} {o e : Nat} {t : Token}
  {ts : List Token} {r : Rule} {spec : Spec} {l : Spec.Layout}

/-- The token of a rule that stops at edges stops at one. -/
theorem MadeBy.stops_at_edge (h : MadeBy rules source r t)
    (hr : r.StopsAtEdge) : ¬ InWord source t.stop.offset := by
  obtain ⟨k, n, m, hfirst, hn, hm, ht⟩ := h
  obtain ⟨p, label, rfl, hp⟩ := hr
  cases hm
  rw [ht]
  intro hword
  exact hp _ n (Text.lineFeed_not_mem_firstLine _) hfirst.matches_here
    (Text.inWord_restAt hn (Pattern.matchLength?_le hfirst.matches_here)
      hword)

/-- Every token stops at an edge, unless it is a number. -/
theorem Lexed.edge_or_number (hl : l.Suits spec) (hown : spec.rules = [])
    (h : Lexed l.rules source o t) :
    ¬ InWord source t.stop.offset ∨ MadeBy l.rules source l.number t := by
  cases h with
  | @matched k n m r h hn hm =>
      have hmade : MadeBy l.rules source r
          (tokenAt source r.label o (o + m)) :=
        ⟨k, n, m, h, hn, hm, rfl⟩
      rcases Spec.stopsAtEdge_or_number hl hown
        (List.mem_of_getElem? h.rule_eq) with hr | rfl
      · exact .inl (hmade.stops_at_edge hr)
      · exact .inr hmade
  | unmatched h ho =>
      exact .inl (Text.not_inWord_succ ho (Spec.any_head?_of_unmatched hl h))

/-- A token on a path stands where the path begins or where another one
stops. -/
theorem Path.exists_before (h : Path rules source o ts e) (ht : t ∈ ts) :
    t.start.offset = o ∨ ∃ u ∈ ts, u.stop.offset = t.start.offset := by
  induction h with
  | nil o => cases ht
  | @cons o e v ts hlex hts ih =>
      rcases List.mem_cons.1 ht with rfl | ht
      · exact .inl hlex.start_offset
      · rcases ih ht with hstart | ⟨u, hu, hstop⟩
        · exact .inr ⟨v, List.mem_cons_self, hstart.symm⟩
        · exact .inr ⟨u, List.mem_cons_of_mem _ hu, hstop⟩

/-- Every token of a scan begins at an edge, unless a number stops
there. -/
theorem Path.edge_or_number (hl : l.Suits spec) (hown : spec.rules = [])
    (h : Path l.rules source 0 ts e) (ht : t ∈ ts) :
    ¬ InWord source t.start.offset
      ∨ ∃ u ∈ ts, MadeBy l.rules source l.number u
        ∧ u.stop.offset = t.start.offset := by
  rcases h.exists_before ht with hzero | ⟨u, hu, hstop⟩
  · rw [hzero]
    exact .inl fun hword => by cases hword.1
  · rcases (h.exists_lexed hu).edge_or_number hl hown with hedge | hnumber
    · exact .inl (hstop ▸ hedge)
    · exact .inr ⟨u, hu, hnumber, hstop⟩

/-- The last character of a token lies just before its stop. -/
theorem Lexed.getLast?_text (h : Lexed rules source o t) :
    t.text.getLast? = (source.take t.stop.offset).getLast? := by
  obtain ⟨m, hm, hle, ht⟩ := h.bounds
  have hne : slice source o (o + m) ≠ [] := by
    rw [← List.length_pos_iff, Text.length_slice hle]
    exact hm
  rw [ht]
  show (slice source o (o + m)).getLast? = (source.take (o + m)).getLast?
  rw [← Text.take_append_slice, List.getLast?_append_of_ne_nil _ hne]

/-- The first one lies at its start. -/
theorem Lexed.head?_text (h : Lexed rules source o t) :
    t.text.head? = (source.drop o).head? := by
  obtain ⟨m, hm, hle, ht⟩ := h.bounds
  rw [ht]
  show (slice source o (o + m)).head? = _
  rw [Text.slice_eq_take_drop, List.head?_take, if_neg (Nat.ne_of_gt hm)]

/-- A token of a word rule that has only word characters is whole. -/
theorem Path.isWhole (hl : l.Suits spec) (hown : spec.rules = [])
    (h : Path l.rules source 0 ts source.length) (ht : t ∈ ts)
    (hr : l.IsWordRule r) (hmade : MadeBy l.rules source r t)
    (hword : t.text.all isWordChar) : IsWhole l source ts t := by
  have hlex := h.exists_lexed ht
  have htiling := h.tiling
  have hne := htiling.text_ne_nil t ht
  constructor
  · intro c hc
    have hstop := hmade.stops_at_edge (Spec.stopsAtEdge_of_isWordRule hl hr)
    have hlast := List.all_eq_true.1 hword _ (List.getLast_mem hne)
    rw [Bool.eq_false_iff]
    intro hc'
    refine hstop ⟨?_, ?_⟩
    · rw [← hlex.getLast?_text, List.getLast?_eq_some_getLast hne]
      exact hlast
    · rw [hc]
      exact hc'
  · intro c hc hc'
    have hhead := List.all_eq_true.1 hword _ (List.head_mem hne)
    rcases h.edge_or_number hl hown ht with hedge | ⟨u, hu, hnumber, hstop⟩
    · refine absurd ⟨?_, ?_⟩ hedge
      · rw [hc]
        exact hc'
      · rw [← hlex.head?_text, List.head?_eq_some_head hne]
        exact hhead
    · refine ⟨u, hu, hnumber, ?_, ?_⟩
      · rw [htiling.stop_eq u hu, htiling.start_eq t ht, hstop]
      · rw [(h.exists_lexed hu).getLast?_text, hstop, hc]

end Scan

-- ========================================================== the result

namespace Spec

/-- A language without rules of its own takes its words as a whole: a token
of a word rule with word characters only is no part of a longer word, but
for a number in front of it. The scan of any text comes to its end. -/
theorem listed_words_are_whole {spec : Spec} (hspec : spec.HasWords)
    (hown : spec.rules = []) (language : String) (source : Text) :
    ∃ l : Layout, spec.compile language = .ok l.rules ∧ l.Suits spec
      ∧ ∃ ts, tokenize l.rules source = .ok ts
        ∧ ∀ t ∈ ts, ∀ r, l.IsWordRule r → Scan.MadeBy l.rules source r t →
          t.text.all isWordChar → Scan.IsWhole l source ts t := by
  have hnone : ∀ r, r ∉ spec.rules := by
    rw [hown]
    exact fun _ => List.not_mem_nil
  obtain ⟨rules, hrules⟩ : ∃ rules, spec.compile language = .ok rules :=
    exists_compile language fun r hr => absurd hr (hnone r)
  obtain ⟨l, rfl, hl⟩ := exists_layout hrules
  have hfilled := isFilled_of_compile hspec
    (fun r hr => absurd hr (hnone r)) hrules
  obtain ⟨ts, hts⟩ := Scan.exists_tokenize_of_filled hfilled source
  refine ⟨l, hrules, hl, ts, hts, fun t ht r hr hmade hword => ?_⟩
  exact (Scan.tokenize_ok_iff.1 hts).isWhole hl hown ht hr hmade hword

/-- A language with a single keyword. -/
def conditional : Spec where
  keywords := some ["if".toList]

/-- The keyword in `1if`. -/
def conditionalIf : Token :=
  ⟨some "keyword", "if".toList, ⟨0, 1, 1⟩, ⟨0, 3, 3⟩⟩

theorem listed_words_are_whole_if :
    conditional.HasWords ∧ conditional.rules = []
      ∧ ∃ l : Layout, conditional.compile "x" = .ok l.rules
        ∧ ∃ ts, tokenize l.rules "1if".toList = .ok ts
          ∧ conditionalIf ∈ ts
          ∧ ∃ u ∈ ts, Scan.MadeBy l.rules "1if".toList l.number u
            ∧ u.stop = conditionalIf.start ∧ u.text.getLast? = some '1' := by
  have hwords : conditional.HasWords := by decide
  refine ⟨hwords, rfl, ?_⟩
  obtain ⟨l, hc, hl, ts, hts, hwhole⟩ :=
    listed_words_are_whole hwords rfl "x" "1if".toList
  have hscan : (conditional.compile "x").toOption.bind
      (fun rs => (tokenize rs "1if".toList).toOption)
        = some [⟨some "value", "1".toList, ⟨0, 0, 0⟩, ⟨0, 1, 1⟩⟩,
          conditionalIf] := by
    decide +kernel
  have hfirst : (conditional.compile "x").toOption.bind
      (fun rs => (Scan.first? rs "if".toList).toOption.bind
        (·.map fun x => (x.1, x.2.2))) = some (1, 2) := by
    decide +kernel
  rw [hc] at hscan hfirst
  change (tokenize l.rules _).toOption = _ at hscan
  change (Scan.first? l.rules _).toOption.bind _ = _ at hfirst
  rw [hts] at hscan
  obtain ⟨x, hx, hfirst⟩ := Option.bind_eq_some_iff.1 hfirst
  obtain ⟨⟨_, r, _⟩, rfl, hr⟩ := Option.map_eq_some_iff.1 hfirst
  cases hr
  obtain ⟨i, hi, hfirst⟩ := Scan.go_eq_some_iff.1 (eq_ok_of_toOption hx)
  rw [Nat.zero_add] at hi
  subst hi
  -- the second rule is that for keywords
  obtain ⟨k, hk, p, rfl, hp⟩ :=
    exists_of_rel_left (rel_takesFirst hl.keywords)
  have hkeyword : .simple p (some "keyword") = r := by
    have hget := hfirst.rule_eq
    simpa [Layout.rules, hl.own_eq_nil rfl, hk] using hget
  subst hkeyword
  have hmem : conditionalIf ∈ ts := by
    rw [Option.some.inj hscan]
    simp
  have htoken : conditionalIf
      = Scan.tokenAt "1if".toList (some "keyword") 1 3 := by
    decide +kernel
  have hif := hwhole _ hmem _ (by simp [Layout.IsWordRule, hk])
    ⟨1, 2, 2, hfirst, by decide, .simple, htoken⟩ (by decide +kernel)
  exact ⟨l, hc, ts, hts, hmem, hif.before '1' rfl (by decide +kernel)⟩

end Spec

end Highlight
