/-
Scans of a text and of the text with carriage returns, side by side.

Wherever the scan of the text comes, the scan of the longer text comes as
well, except that at the end of a line it may have passed the carriage
return (`Beside`): a comment has taken it, or blanks have. Where it has not,
the carriage return becomes a token of its own, without a label. So the
tokens with a label correspond, one by one (`tracks_of_path`).
-/
import Highlight.Proofs.Return.Match
import Highlight.Proofs.Return.Text
import Highlight.Proofs.Escape.Scan

namespace Highlight

open List (Forall₂)
open Text (restAt lines below column16 withReturns returned returnedOffset)

-- ========================================================== vocabulary

/-- A carriage return behind the line changes nothing for the rule, unless
it makes blanks or comments. -/
def Rule.Tolerant : Rule → Prop
  | .simple p label =>
    p.Steady ∨ p.Absorbs ∧ (label = none ∨ label = some "comment")
  | .delimited p closing _ => p.Steady ∧ closing.SteadySearch

/-- A tolerant rule begins the same tokens. -/
theorem Rule.Tolerant.absorbs {r : Rule} (h : r.Tolerant) :
    r.opening.Absorbs := by
  cases r with
  | simple p label => exact h.elim Pattern.Steady.absorbs And.left
  | delimited p closing label => exact h.1.absorbs

namespace Scan

/-- Rules that carriage returns do not disturb: each of them, and those
that are left over are taken by a rule without a label. -/
structure Tolerant (rules : List Rule) : Prop where
  each : ∀ r ∈ rules, r.Tolerant
  advances : ∀ r ∈ rules, r.opening.Advances
  blank : ∃ k p, IsFirst rules ['\r'] k (.simple p none) 1

/-- The tokens with a label. -/
def labelled (ts : List Token) : List Token := ts.filter (·.label.isSome)

/-- The token is found again in the text with carriage returns: with its
label, in its place, and with its text, except that a comment may take a
carriage return in front of its line's end. -/
structure Resembles (source : Text) (t u : Token) : Prop where
  label : u.label = t.label
  row : u.start.row = t.start.row
  col : u.start.col = t.start.col
  column : column16 (withReturns source) u.start.offset
    = column16 source t.start.offset
  text : u.text = withReturns t.text
    ∨ source[t.stop.offset]? = some '\n' ∧ t.label = some "comment"
      ∧ u.text = withReturns t.text ++ ['\r']

/-- The offsets belong to each other, but that a carriage return at the end
of the line may have been passed. -/
def Beside (source : Text) (o o' : Nat) : Prop :=
  o' = returnedOffset source o
    ∨ source[o]? = some '\n' ∧ o' = returnedOffset source o + 1

/-- From an offset of the longer text on its tokens resemble these, up to
where they end. -/
def Tracks (rules : List Rule) (source : Text) (o' : Nat) (ts : List Token)
    (e : Nat) : Prop :=
  ∃ us e', Path rules (withReturns source) o' us e' ∧ Beside source e e'
    ∧ Forall₂ (Resembles source) (labelled ts) (labelled us)

variable {rules : List Rule} {source : Text}

-- ======================================================= rules at a place

/-- Where a line ends no rule matches. -/
theorem Tolerant.unmatched_nil (hrules : Tolerant rules) :
    Unmatched rules [] :=
  fun r hr => (hrules.advances r hr).nil

/-- A carriage return makes no rule match that did not. -/
theorem Tolerant.match_none (hrules : Tolerant rules) {r : Rule}
    (hr : r ∈ rules) {line : Text} (hne : line ≠ []) (hline : '\n' ∉ line)
    (h : r.opening.matchLength? line = .ok none) :
    r.opening.matchLength? (line ++ ['\r']) = .ok none := by
  rcases (hrules.each r hr).absorbs line hne hline with hsame | ⟨hall, -⟩
  · exact hsame.trans h
  · rw [h] at hall
    cases hall

/-- So a line that no rule matches stays unmatched. -/
theorem Unmatched.returned (hrules : Tolerant rules) {line : Text}
    (hne : line ≠ []) (hline : '\n' ∉ line) (h : Unmatched rules line) :
    Unmatched rules (line ++ ['\r']) :=
  fun r hr => hrules.match_none hr hne hline (h r hr)

/-- The first rule at a place stays the first one. It takes what it took, or
the carriage return behind a whole line as well. -/
theorem IsFirst.returned (hrules : Tolerant rules) {line : Text}
    {k n : Nat} {rule : Rule} (hline : '\n' ∉ line) (hn : 0 < n)
    (h : IsFirst rules line k rule n) :
    IsFirst rules (line ++ ['\r']) k rule n
      ∨ n = line.length ∧ IsFirst rules (line ++ ['\r']) k rule (n + 1)
        ∧ ∃ p label, rule = .simple p label
          ∧ (label = none ∨ label = some "comment") := by
  have hmem := List.mem_of_getElem? h.rule_eq
  have hne : line ≠ [] := by
    rintro rfl
    exact absurd (Pattern.matchLength?_le h.matches_here)
      (Nat.not_le.2 hn)
  have hbefore : ∀ j < k, ∀ r, rules[j]? = some r →
      r.opening.matchLength? (line ++ ['\r']) = .ok none :=
    fun j hj r hr => hrules.match_none (List.mem_of_getElem? hr) hne hline
      (h.none_before j hj r hr)
  have hsame : rule.opening.matchLength? (line ++ ['\r'])
      = rule.opening.matchLength? line →
      IsFirst rules (line ++ ['\r']) k rule n :=
    fun heq => ⟨h.rule_eq, heq.trans h.matches_here, hbefore⟩
  -- Only a simple rule may take the carriage return as well.
  have hrule := hrules.each rule hmem
  cases rule with
  | delimited p closing label => exact Or.inl (hsame (hrule.1 line))
  | simple p label =>
      rcases hrule with hsteady | ⟨habsorbs, hlabel⟩
      · exact Or.inl (hsame (hsteady line))
      · rcases habsorbs line hne hline with heq | ⟨hall, hmore⟩
        · exact Or.inl (hsame heq)
        · have hlen : n = line.length := by
            have heq := h.matches_here.symm.trans hall
            exact Option.some.inj (Except.ok.inj heq)
          refine Or.inr ⟨hlen, ⟨h.rule_eq, ?_, hbefore⟩, p, label, rfl, hlabel⟩
          rw [hlen]
          exact hmore

-- ============================================================= closings

/-- A closing is found at the same place of both texts. -/
theorem closes_returned {closing : Pattern} (hc : closing.SteadySearch)
    {line : Text} {more : List Text} {n : Nat}
    (h : Closes closing (line :: more) n)
    (hclean : ∀ l ∈ line :: more, '\n' ∉ l) :
    Closes closing (returned (line :: more))
      (withReturns ((line ++ below more).take n)).length := by
  -- By induction on the search: a line that is passed has its carriage
  -- return behind it, the last one has none.
  generalize hls : line :: more = ls at h
  induction h generalizing line more with
  | @found line rest n h =>
      cases hls
      have hle := Pattern.searchEnd?_le h
      have hpart : '\n' ∉ line.take n :=
        fun hm => hclean line List.mem_cons_self (List.mem_of_mem_take hm)
      rw [List.take_append_of_le_length hle,
        Text.withReturns_of_not_mem hpart, List.length_take_of_le hle]
      cases rest with
      | nil => exact .found h
      | cons next rest =>
          obtain ⟨o, ho, hreturn⟩ := hc line
          rw [h] at ho
          cases ho
          exact .found hreturn
  | @later line rest n h hmore hn ih =>
      cases hls
      obtain ⟨o, ho, hreturn⟩ := hc line
      rw [h] at ho
      cases ho
      obtain ⟨next, rest, rfl⟩ := List.exists_cons_of_ne_nil hmore
      have hlater := ih (fun l hl => hclean l (List.mem_cons_of_mem _ hl)) rfl
      have htake : (line ++ below (next :: rest)).take (line.length + 1 + n)
          = line ++ '\n' :: (next ++ below rest).take n := by
        rw [Text.below_cons, Text.take_append_lineFeed]
      have hlen : ∀ r : Text, (line ++ ['\r'] ++ '\n' :: r).length
          = (line ++ ['\r']).length + 1 + r.length := by
        intro r
        rw [List.length_append, List.length_cons]
        omega
      have hrest : returned (next :: rest) ≠ [] := by
        cases rest <;> exact List.cons_ne_nil _ _
      rw [htake, Text.withReturns_append_lineFeed
        (hclean line List.mem_cons_self), hlen]
      exact .later hreturn hrest hlater
  | @unclosed line h =>
      cases hls
      rw [Text.below_nil, List.append_nil, List.take_length,
        Text.withReturns_of_not_mem (hclean line List.mem_cons_self)]
      exact .unclosed h

/-- A delimited token closes at the corresponding place. -/
theorem closes_lines_returned {closing : Pattern}
    (hc : closing.SteadySearch) {t : Text} {n : Nat}
    (h : Closes closing (lines t) n) :
    Closes closing (lines (withReturns t))
      (withReturns (t.take n)).length := by
  obtain ⟨more, hmore⟩ := Text.lines_eq_cons t
  have hclean : ∀ l ∈ lines t, '\n' ∉ l :=
    fun l hl => Text.lineFeed_not_mem_of_mem_lines hl
  have hjoin := Text.firstLine_append_below hmore
  rw [hmore] at h hclean
  have hreturned := closes_returned hc h hclean
  rw [hjoin] at hreturned
  rw [Text.lines_withReturns, hmore]
  exact hreturned

-- =============================================================== tokens

/-- The labelled tokens of two pieces follow each other. -/
theorem labelled_append (ts us : List Token) :
    labelled (ts ++ us) = labelled ts ++ labelled us :=
  List.filter_append ..

theorem forall₂_labelled {t u : Token} (hlabel : u.label = t.label)
    (h : t.label.isSome → Resembles source t u) :
    Forall₂ (Resembles source) (labelled [t]) (labelled [u]) := by
  unfold labelled
  cases ht : t.label.isSome with
  | false =>
      rw [List.filter_cons_of_neg (by simp [ht]),
        List.filter_cons_of_neg (by simp [hlabel, ht])]
      exact .nil
  | true =>
      rw [List.filter_cons_of_pos (by simp [ht]),
        List.filter_cons_of_pos (by simp [hlabel, ht])]
      exact .cons (h ht) .nil

/-- What a rule takes within its line it takes in the longer text. -/
theorem Extends.returned {o n m : Nat} {rule : Rule} (hr : rule.Tolerant)
    (hn : n ≤ (restAt source o).length) (h : Extends source o rule n m) :
    Extends (withReturns source) (returnedOffset source o) rule n
      (withReturns ((source.drop o).take m)).length := by
  have hlen := Text.length_withReturns_take hn
  cases h with
  | simple =>
      rw [hlen]
      exact .simple
  | @delimited p closing label n m hc =>
      have hmore := closes_lines_returned hr.2 hc
      rw [← Text.drop_returnedOffset, Text.returnedOffset_add, hlen] at hmore
      rw [List.take_add, Text.withReturns_append, List.length_append, hlen,
        List.drop_drop]
      exact .delimited hmore

/-- Tokens between corresponding offsets are the same but for carriage
returns. -/
theorem resembles_tokenAt {o : Nat} (ho : o ≤ source.length)
    (label : Option String) (m : Nat) :
    Resembles source (tokenAt source label o (o + m))
      (tokenAt (withReturns source) label (returnedOffset source o)
        (returnedOffset source (o + m))) := by
  obtain ⟨hrow, hcol, hcolumn⟩ := Text.position_returnedOffset ho
  exact ⟨rfl, hrow, hcol, hcolumn,
    Or.inl (Text.slice_returnedOffset source o m)⟩

/-- A token up to the end of its line, and the one that takes the carriage
return as well. -/
theorem resembles_absorbed {o n : Nat} (ho : o ≤ source.length)
    (hfeed : source[o + n]? = some '\n') :
    Resembles source (tokenAt source (some "comment") o (o + n))
      (tokenAt (withReturns source) (some "comment")
        (returnedOffset source o) (returnedOffset source (o + n) + 1)) := by
  obtain ⟨hrow, hcol, hcolumn⟩ := Text.position_returnedOffset ho
  refine ⟨rfl, hrow, hcol, hcolumn, Or.inr ⟨hfeed, rfl, ?_⟩⟩
  exact Text.slice_returnedOffset_succ hfeed

-- ================================================================ steps

/-- A rule that takes what it took makes a token that resembles the one it
made. -/
theorem tracks_of_isFirst (hrules : Tolerant rules) {o k n m : Nat}
    {rule : Rule} (h : IsFirst rules
      (restAt (withReturns source) (returnedOffset source o)) k rule n)
    (hn : 0 < n) (hle : n ≤ (restAt source o).length)
    (hm : Extends source o rule n m) :
    Tracks rules source (returnedOffset source o)
      [tokenAt source rule.label o (o + m)] (o + m) := by
  have hrule := hrules.each rule (List.mem_of_getElem? h.rule_eq)
  have hlexed := Lexed.matched h hn (hm.returned hrule hle)
  rw [← Text.returnedOffset_add] at hlexed
  have ho : o ≤ source.length :=
    Nat.le_of_add_right_le (add_le_of_restAt hn hle)
  exact ⟨_, _, .cons hlexed (.nil _), Or.inl rfl,
    forall₂_labelled rfl fun _ => resembles_tokenAt ho rule.label m⟩

/-- A rule that takes a whole line may take the carriage return as well. -/
theorem tracks_of_absorbed {o k n : Nat} {p : Pattern}
    {label : Option String} (h : IsFirst rules
      (restAt (withReturns source) (returnedOffset source o)) k
      (.simple p label) (n + 1))
    (hlabel : label = none ∨ label = some "comment")
    (hn : n = (restAt source o).length)
    (hfeed : source[o + n]? = some '\n') :
    Tracks rules source (returnedOffset source o)
      [tokenAt source label o (o + n)] (o + n) := by
  have hlexed := Lexed.matched h (Nat.succ_pos n) .simple
  have hlt := (List.getElem?_eq_some_iff.1 hfeed).1
  have hwithin : returnedOffset source (o + n)
      = returnedOffset source o + n := by
    rw [Text.returnedOffset_add,
      Text.length_withReturns_take (Nat.le_of_eq hn)]
  rw [← Nat.add_assoc, ← hwithin] at hlexed
  refine ⟨_, _, .cons hlexed (.nil _), Or.inr ⟨hfeed, rfl⟩,
    forall₂_labelled rfl fun hsome => ?_⟩
  rcases hlabel with rfl | rfl
  · cases hsome
  · exact resembles_absorbed (by omega) hfeed

/-- The line feed behind a carriage return is a plain token. -/
theorem lexed_lineFeed (hrules : Tolerant rules) {o : Nat}
    (hfeed : source[o]? = some '\n') :
    Lexed rules (withReturns source) (returnedOffset source o + 1)
      (tokenAt (withReturns source) none (returnedOffset source o + 1)
        (returnedOffset source (o + 1))) := by
  have hdrop := Text.drop_returnedOffset_lineFeed hfeed
  have hdrop' : (withReturns source).drop (returnedOffset source o + 1)
      = '\n' :: withReturns (source.drop (o + 1)) :=
    drop_add_of_drop (v := ['\r']) hdrop
  have hrest : restAt (withReturns source) (returnedOffset source o + 1)
      = [] := by
    unfold restAt
    rw [hdrop']
    rfl
  have hnone : Unmatched rules
      (restAt (withReturns source) (returnedOffset source o + 1)) := by
    rw [hrest]
    exact hrules.unmatched_nil
  rw [Text.returnedOffset_lineFeed hfeed]
  exact .unmatched hnone (lt_of_drop hdrop')

/-- A line feed is a token without a label, and so is the carriage return in
front of it if it has not been passed. -/
theorem tracks_of_lineFeed (hrules : Tolerant rules) {o o' : Nat}
    (hfeed : source[o]? = some '\n') (hbeside : Beside source o o') :
    Tracks rules source o' [tokenAt source none o (o + 1)] (o + 1) := by
  have hlast := lexed_lineFeed hrules hfeed
  rcases hbeside with rfl | ⟨-, rfl⟩
  · have hdrop := Text.drop_returnedOffset_lineFeed hfeed
    have hrest := restAt_of_drop (v := ['\r']) hdrop (by decide)
    obtain ⟨k, p, hblank⟩ := hrules.blank
    have hfirst : IsFirst rules
        (restAt (withReturns source) (returnedOffset source o)) k
        (.simple p none) 1 := by
      rw [hrest]
      exact hblank
    have hreturn := Lexed.matched hfirst Nat.one_pos .simple
    exact ⟨_, _, .cons hreturn (.cons hlast (.nil _)), Or.inl rfl, .nil⟩
  · exact ⟨_, _, .cons hlast (.nil _), Or.inl rfl, .nil⟩

/-- A character that no rule takes stays alone. -/
theorem tracks_of_unmatched (hrules : Tolerant rules) {o : Nat}
    (ho : o < source.length) (hfeed : source[o]? ≠ some '\n')
    (h : Unmatched rules (restAt source o)) :
    Tracks rules source (returnedOffset source o)
      [tokenAt source none o (o + 1)] (o + 1) := by
  have hdrop := List.drop_eq_getElem_cons ho
  have hc : source[o] ≠ '\n' := by
    rw [List.getElem?_eq_getElem ho] at hfeed
    exact fun hc => hfeed (congrArg some hc)
  have hrest : restAt source o ≠ [] := by
    rw [restAt_of_drop (v := [source[o]]) hdrop (by simpa using hc.symm)]
    exact List.cons_ne_nil _ _
  have hone : returnedOffset source (o + 1) = returnedOffset source o + 1 := by
    rw [Text.returnedOffset_add, hdrop, List.take_succ_cons,
      Text.withReturns_cons hc]
    rfl
  have hnone : Unmatched rules
      (restAt (withReturns source) (returnedOffset source o)) := by
    rw [Text.restAt_returnedOffset]
    split
    · exact h.returned hrules hrest (Text.lineFeed_not_mem_firstLine _)
    · exact h
  have hlt : returnedOffset source o < (withReturns source).length := by
    have hle := Text.returnedOffset_le source (o + 1)
    omega
  have hlexed := Lexed.unmatched hnone hlt
  rw [← hone] at hlexed
  exact ⟨_, _, .cons hlexed (.nil _), Or.inl rfl, .nil⟩

/-- The tokens of the longer text that belong to a token. -/
theorem tracks_of_lexed (hrules : Tolerant rules) {o o' : Nat}
    {t : Token} (h : Lexed rules source o t) (hbeside : Beside source o o') :
    Tracks rules source o' [t] t.stop.offset := by
  have hclean : '\n' ∉ restAt source o := Text.lineFeed_not_mem_firstLine _
  cases h with
  | unmatched h ho =>
      by_cases hfeed : source[o]? = some '\n'
      · exact tracks_of_lineFeed hrules hfeed hbeside
      · obtain rfl := hbeside.resolve_right fun hpast => hfeed hpast.1
        exact tracks_of_unmatched hrules ho hfeed h
  | @matched k n m rule h hn hm =>
      have hle := Pattern.matchLength?_le h.matches_here
      -- where a line ends no rule takes any text
      have hplace : o' = returnedOffset source o := by
        refine hbeside.resolve_right fun hpast => ?_
        rw [Text.restAt_of_lineFeed hpast.1] at hle
        exact absurd hle (Nat.not_le.2 hn)
      rw [hplace]
      have hrest := Text.restAt_returnedOffset source o
      by_cases hmore : '\n' ∈ source.drop o
      · rw [if_pos hmore] at hrest
        rcases h.returned hrules hclean hn with hsame
          | ⟨hall, htaken, p, label, rfl, hlabel⟩
        · rw [← hrest] at hsame
          exact tracks_of_isFirst hrules hsame hn hle hm
        · rw [← hrest] at htaken
          cases hm
          exact tracks_of_absorbed htaken hlabel hall
            (hall ▸ Text.getElem?_length_restAt hmore)
      · rw [if_neg hmore] at hrest
        rw [← hrest] at h
        exact tracks_of_isFirst hrules h hn hle hm

/-- The tokens of the longer text that belong to the tokens on a path. -/
theorem tracks_of_path (hrules : Tolerant rules) {o o' e : Nat}
    {ts : List Token} (h : Path rules source o ts e)
    (hbeside : Beside source o o') : Tracks rules source o' ts e := by
  induction h generalizing o' with
  | nil o => exact ⟨[], o', .nil o', hbeside, .nil⟩
  | @cons o e t ts hlex hts ih =>
      obtain ⟨us, e', hus, hnext, hrel⟩ := tracks_of_lexed hrules hlex hbeside
      obtain ⟨vs, e'', hvs, hend, hrel'⟩ := ih hnext
      refine ⟨us ++ vs, e'', hus.append hvs, hend, ?_⟩
      rw [← List.singleton_append, labelled_append, labelled_append]
      exact List.rel_append hrel hrel'

/-- Rules that carriage returns do not disturb finish both scans, with the
same tokens with a label. -/
theorem tokenize_of_tolerant (hrules : Tolerant rules) (source : Text) :
    ∃ ts us, tokenize rules source = .ok ts
      ∧ tokenize rules (withReturns source) = .ok us
      ∧ Forall₂ (Resembles source) (labelled ts) (labelled us) := by
  have hfinish : ∃ ts, tokenize rules source = .ok ts := by
    refine exists_tokenize (fun r hr line _ => (hrules.advances r hr).ne_zero
      line) (fun r hr x => ?_) source
    rintro ⟨line, -, hx | ⟨p, closing, label, rfl, hx⟩⟩
    · obtain ⟨o, ho⟩ := (hrules.advances r hr).answers line
      rw [hx] at ho
      cases ho
    · obtain ⟨o, ho, -⟩ := (hrules.each _ hr).2 line
      rw [hx] at ho
      cases ho
  obtain ⟨ts, hts⟩ := hfinish
  obtain ⟨us, e, hus, hend, hrel⟩ :=
    tracks_of_path hrules (tokenize_ok_iff.1 hts) (Or.inl rfl)
  have he : e = (withReturns source).length := by
    rw [← Text.returnedOffset_length]
    refine hend.resolve_right fun hpast => ?_
    rw [List.getElem?_eq_none (Nat.le_refl _)] at hpast
    cases hpast.1
  rw [he] at hus
  exact ⟨ts, us, hts, tokenize_ok_iff.2 hus, hrel⟩

end Scan

end Highlight
