/-
Escaped texts. The special characters become entities, all other
characters stay, and no line feed comes or goes, so rows and lines are
kept (`lines_escape`).

Entities are made of a few characters only. A word without those stands
in the escaped text just where it stands in the text
(`wordEnd?_escape`).
-/
import Highlight.Html.Markup
import Highlight.Proofs.Regex.Word

namespace Highlight.Html

-- ========================================================== vocabulary

/-- The characters that are not written as they are. -/
def specials : List Char := ['&', '<', '>']

/-- The names of their entities. -/
def entityNames : List Text :=
  ["amp".toList, "lt".toList, "gt".toList]

/-- The characters that entities are made of. -/
def entityChars : List Char := ['&', 'a', 'm', 'p', 'l', 't', 'g', ';']

-- ========================================================== characters

/-- All but three characters stand for themselves. -/
theorem escapeChar_of_not_mem {c : Char} (h : c ∉ specials) :
    escapeChar c = [c] := by
  simp only [specials, List.mem_cons, List.not_mem_nil, or_false,
    not_or] at h
  unfold escapeChar
  rw [if_neg h.1, if_neg h.2.1, if_neg h.2.2]

/-- The three characters that have a meaning in markup. -/
theorem special_cases {c : Char} (h : c ∈ specials) :
    c = '&' ∨ c = '<' ∨ c = '>' := by
  simpa only [specials, List.mem_cons, List.not_mem_nil, or_false] using h

/-- Each of the three becomes an entity with a name of its own. -/
theorem escapeChar_of_mem {c : Char} (h : c ∈ specials) :
    ∃ w ∈ entityNames, escapeChar c = '&' :: (w ++ [';']) := by
  rcases special_cases h with rfl | rfl | rfl
  · exact ⟨"amp".toList, by decide, rfl⟩
  · exact ⟨"lt".toList, by decide, rfl⟩
  · exact ⟨"gt".toList, by decide, rfl⟩

/-- An escaped character is itself or the head of an entity, and behind it
come only characters of entities. -/
theorem escapeChar_eq_cons (c : Char) :
    ∃ d w, escapeChar c = d :: w ∧ (d = c ∨ d = '&')
      ∧ ∀ x ∈ w, x ∈ entityChars := by
  by_cases h : c ∈ specials
  · obtain ⟨w, hw, he⟩ := escapeChar_of_mem h
    refine ⟨'&', w ++ [';'], he, Or.inr rfl, ?_⟩
    have hall : ∀ w ∈ entityNames,
        (w ++ [';']).all (· ∈ entityChars) = true := by
      decide
    intro x hx
    exact of_decide_eq_true (List.all_eq_true.1 (hall w hw) x hx)
  · exact ⟨c, [], escapeChar_of_not_mem h, Or.inl rfl,
      fun x hx => absurd hx List.not_mem_nil⟩

/-- No character comes in but those of entities. -/
theorem mem_escapeChar {c x : Char} (h : x ∈ escapeChar c) :
    x = c ∨ x ∈ entityChars := by
  obtain ⟨d, w, he, hd, hw⟩ := escapeChar_eq_cons c
  rw [he] at h
  rcases List.mem_cons.1 h with rfl | h
  · rcases hd with rfl | rfl
    · exact Or.inl rfl
    · exact Or.inr (by decide)
  · exact Or.inr (hw x h)

/-- Escaping brings in no line feed. -/
theorem lineFeed_not_mem_escapeChar {c : Char} (h : c ≠ '\n') :
    '\n' ∉ escapeChar c := by
  intro hm
  rcases mem_escapeChar hm with he | he
  · exact h he.symm
  · exact absurd he (by decide)

-- =============================================================== texts

theorem escape_cons (c : Char) (t : Text) :
    escape (c :: t) = escapeChar c ++ escape t := rfl

/-- A text without the three characters stays as it is. -/
theorem escape_of_not_special {t : Text} (h : ∀ c ∈ t, c ∉ specials) :
    escape t = t := by
  induction t with
  | nil => rfl
  | cons c t ih =>
      rw [escape_cons, escapeChar_of_not_mem (h c List.mem_cons_self),
        ih fun d hd => h d (List.mem_cons_of_mem c hd)]
      rfl

/-- Escaping never shortens a text. -/
theorem length_le_escape (t : Text) : t.length ≤ (escape t).length := by
  induction t with
  | nil => exact Nat.le_refl 0
  | cons c t ih =>
      obtain ⟨d, w, he, -⟩ := escapeChar_eq_cons c
      rw [escape_cons, he, List.length_append, List.length_cons,
        List.length_cons]
      omega

/-- Only a text without special characters stays as long as it is. -/
theorem not_special_of_length_escape {t : Text}
    (h : (escape t).length = t.length) : ∀ c ∈ t, c ∉ specials := by
  induction t with
  | nil => exact fun c hc => absurd hc List.not_mem_nil
  | cons d t ih =>
      have hle := length_le_escape t
      rw [escape_cons, List.length_append, List.length_cons] at h
      by_cases hd : d ∈ specials
      · obtain ⟨w, -, he⟩ := escapeChar_of_mem hd
        rw [he, List.length_cons, List.length_append] at h
        simp only [List.length_cons] at h
        omega
      · rw [escapeChar_of_not_mem hd, List.length_singleton] at h
        have ht := ih (by omega)
        intro c hc
        rcases List.mem_cons.1 hc with rfl | hc
        · exact hd
        · exact ht c hc

/-- Only a text without special characters stays as it is. -/
theorem not_special_of_escape_eq {t : Text} (h : escape t = t) :
    ∀ c ∈ t, c ∉ specials :=
  not_special_of_length_escape (congrArg List.length h)

/-- Only the empty text is escaped to nothing. -/
theorem escape_eq_nil {t : Text} (h : escape t = []) : t = [] := by
  cases t with
  | nil => rfl
  | cons c t =>
      obtain ⟨d, w, he, -⟩ := escapeChar_eq_cons c
      rw [escape_cons, he] at h
      cases h

/-- Escaped pieces make up the escaped text. -/
theorem escape_take_append (t : Text) (n : Nat) :
    escape (t.take n) ++ escape (t.drop n) = escape t := by
  rw [← escape_append, List.take_append_drop]

/-- Behind an escaped piece lies the escaped rest. -/
theorem drop_escape (t : Text) (n : Nat) :
    (escape t).drop (escape (t.take n)).length = escape (t.drop n) := by
  rw [← escape_take_append t n, List.drop_left]

/-- Before it lies the escaped piece. -/
theorem take_escape (t : Text) (n : Nat) :
    (escape t).take (escape (t.take n)).length = escape (t.take n) := by
  rw [← escape_take_append t n, List.take_left]

/-- A line stays a line. -/
theorem lineFeed_not_mem_escape {t : Text} (h : '\n' ∉ t) :
    '\n' ∉ escape t := by
  intro hm
  obtain ⟨c, hc, hm⟩ := List.mem_flatMap.1 hm
  exact lineFeed_not_mem_escapeChar (fun e => h (e ▸ hc)) hm

/-- No line is added. -/
theorem lineFeeds_escape (t : Text) :
    Text.lineFeeds (escape t) = Text.lineFeeds t := by
  unfold Text.lineFeeds
  induction t with
  | nil => rfl
  | cons c t ih =>
      rw [escape_cons, List.count_append, ih]
      by_cases hc : c = '\n'
      · subst hc
        rw [List.count_cons_self, Nat.add_comm]
        rfl
      · rw [List.count_eq_zero.2 (lineFeed_not_mem_escapeChar hc),
          List.count_cons_of_ne hc, Nat.zero_add]

/-- The first line is escaped like any text. -/
theorem firstLine_escape (t : Text) :
    Text.firstLine (escape t) = escape (Text.firstLine t) := by
  unfold Text.firstLine
  induction t with
  | nil => rfl
  | cons c t ih =>
      by_cases hc : c = '\n'
      · subst hc
        rfl
      · have hpos : ∀ x ∈ escapeChar c, (x != '\n') = true := by
          intro x hx
          rw [bne_iff_ne]
          exact fun e => lineFeed_not_mem_escapeChar hc (e ▸ hx)
        rw [escape_cons, List.takeWhile_append_of_pos hpos, ih,
          List.takeWhile_cons_of_pos (by rwa [bne_iff_ne]), escape_cons]

/-- Text without a line feed only makes the first line longer. -/
theorem lines_append_of_not_mem {s t l : Text} {ls : List Text}
    (hs : '\n' ∉ s) (h : Text.lines t = l :: ls) :
    Text.lines (s ++ t) = (s ++ l) :: ls := by
  induction s with
  | nil => exact h
  | cons c s ih =>
      rw [List.mem_cons, not_or] at hs
      have hc : c ≠ '\n' := fun e => hs.1 e.symm
      have hs := ih hs.2
      simp only [Text.lines] at hs
      simp only [Text.lines, List.cons_append, Text.cut, hc, ↓reduceIte, hs]

/-- The lines of an escaped text are the lines, escaped. -/
theorem lines_escape (t : Text) :
    Text.lines (escape t) = (Text.lines t).map escape := by
  induction t with
  | nil => rfl
  | cons c t ih =>
      by_cases hc : c = '\n'
      · subst hc
        show Text.lines ('\n' :: escape t) = _
        rw [Text.lines_lineFeed, Text.lines_lineFeed, ih]
        rfl
      · obtain ⟨ls, hls⟩ := Text.lines_eq_cons t
        rw [hls, List.map_cons] at ih
        have hline := lines_append_of_not_mem (s := [c])
          (fun h => hc (List.mem_singleton.1 h).symm) hls
        rw [List.singleton_append] at hline
        rw [escape_cons, hline, lines_append_of_not_mem
          (lineFeed_not_mem_escapeChar hc) ih]
        rfl

-- =============================================================== places

/-- A run of characters that are not special ends at the same place. -/
theorem takeWhile_escape {p : Char → Bool} (hp : ∀ c ∈ specials, p c = false)
    (t : Text) :
    (escape t).takeWhile p = t.takeWhile p
      ∧ escape (t.takeWhile p) = t.takeWhile p := by
  constructor
  · induction t with
    | nil => rfl
    | cons c t ih =>
        by_cases hc : c ∈ specials
        · obtain ⟨w, -, he⟩ := escapeChar_of_mem hc
          rw [escape_cons, he, List.cons_append, List.takeWhile_cons_of_neg
            (by rw [hp '&' (by decide)]; decide),
            List.takeWhile_cons_of_neg (by rw [hp c hc]; decide)]
        · rw [escape_cons, escapeChar_of_not_mem hc, List.singleton_append]
          cases hpc : p c with
          | true =>
              rw [List.takeWhile_cons_of_pos hpc,
                List.takeWhile_cons_of_pos hpc, ih]
          | false =>
              rw [List.takeWhile_cons_of_neg (by simp [hpc]),
                List.takeWhile_cons_of_neg (by simp [hpc])]
  · refine escape_of_not_special fun c hc hs => ?_
    have := List.all_eq_true.1 List.all_takeWhile c hc
    rw [hp c hs] at this
    cases this

/-- A word without special characters begins both texts or none. -/
theorem isPrefixOf_escape {w : Text} (hw : ∀ c ∈ w, c ∉ specials)
    (t : Text) : w.isPrefixOf (escape t) = w.isPrefixOf t := by
  induction w generalizing t with
  | nil => rw [List.isPrefixOf_nil_left, List.isPrefixOf_nil_left]
  | cons d w ih =>
      have hd := hw d List.mem_cons_self
      have hw' := fun c hc => hw c (List.mem_cons_of_mem d hc)
      cases t with
      | nil => rfl
      | cons c t =>
          by_cases hc : c ∈ specials
          · obtain ⟨v, -, he⟩ := escapeChar_of_mem hc
            have hamp : (d == '&') = false := by
              rw [beq_eq_false_iff_ne]
              exact fun e => hd (e ▸ by decide)
            have hdc : (d == c) = false := by
              rw [beq_eq_false_iff_ne]
              exact fun e => hd (e ▸ hc)
            rw [escape_cons, he, List.cons_append,
              List.isPrefixOf_cons_cons, List.isPrefixOf_cons_cons, hamp,
              hdc]
            rfl
          · rw [escape_cons, escapeChar_of_not_mem hc,
              List.singleton_append, List.isPrefixOf_cons_cons,
              List.isPrefixOf_cons_cons, ih hw' t]

open Regex (wordEnd?)

/-- A word ends no sooner for text in front that lacks its first
character. -/
theorem wordEnd?_append {d : Char} {w v : Text} (hv : d ∉ v) (r : Text) :
    wordEnd? (d :: w) (v ++ r)
      = (wordEnd? (d :: w) r).map (v.length + ·) := by
  induction v with
  | nil =>
      show _ = (wordEnd? (d :: w) r).map (0 + ·)
      cases h : wordEnd? (d :: w) r with
      | none => exact h
      | some n => rw [Option.map_some, Nat.zero_add]; exact h
  | cons c v ih =>
      rw [List.mem_cons, not_or] at hv
      have hdc : (d == c) = false := by
        rw [beq_eq_false_iff_ne]
        exact hv.1
      rw [List.cons_append, wordEnd?, List.isPrefixOf_cons_cons, hdc,
        Bool.false_and, if_neg (by decide), ih hv.2, Option.map_map]
      congr 1
      funext n
      show v.length + n + 1 = (c :: v).length + n
      rw [List.length_cons]
      omega

/-- Where a word first ends in the escaped text, if it shares no character
with entities. -/
theorem wordEnd?_escape {w : Text} (hne : w ≠ [])
    (hw : ∀ c ∈ w, c ∉ specials ∧ c ∉ entityChars) (t : Text) :
    wordEnd? w (escape t)
      = (wordEnd? w t).map fun n => (escape (t.take n)).length := by
  obtain ⟨d, w, rfl⟩ := List.exists_cons_of_ne_nil hne
  obtain ⟨hd, hd'⟩ := hw d List.mem_cons_self
  have hspecial := fun c hc => (hw c hc).1
  induction t with
  | nil => rfl
  | cons c t ih =>
      have hpre := isPrefixOf_escape hspecial (c :: t)
      by_cases hp : (d :: w).isPrefixOf (c :: t)
      · obtain ⟨r, hr⟩ := List.isPrefixOf_iff_prefix.1 hp
        have htake : (c :: t).take (d :: w).length = d :: w := by
          rw [← hr, List.take_left]
        rw [hp] at hpre
        have hhere : wordEnd? (d :: w) (c :: t)
            = some (d :: w).length := by
          rw [wordEnd?, if_pos hp]
        rw [hhere, Option.map_some, htake, escape_of_not_special hspecial]
        obtain ⟨x, v, he, -⟩ := escapeChar_eq_cons c
        rw [escape_cons, he, List.cons_append] at hpre ⊢
        rw [wordEnd?, if_pos hpre]
      -- The word does not begin here, so it begins in no character that
      -- this one became.
      · have hlater : wordEnd? (d :: w) (c :: t)
            = (wordEnd? (d :: w) t).map (· + 1) := by
          rw [wordEnd?, if_neg hp]
        have hstep : wordEnd? (d :: w) (escape (c :: t))
            = (wordEnd? (d :: w) (escape t)).map
                ((escapeChar c).length + ·) := by
          by_cases hdc : d = c
          · subst hdc
            rw [escape_cons, escapeChar_of_not_mem hd,
              List.singleton_append] at hpre ⊢
            rw [wordEnd?, if_neg (by rw [hpre]; exact hp)]
            congr 1
            funext n
            exact Nat.add_comm n 1
          · rw [escape_cons]
            refine wordEnd?_append (fun hm => ?_) _
            rcases mem_escapeChar hm with h | h
            · exact hdc h
            · exact hd' h
        rw [hstep, ih, hlater, Option.map_map, Option.map_map]
        congr 1
        funext n
        show _ = (escape ((c :: t).take (n + 1))).length
        rw [List.take_succ_cons, escape_cons, List.length_append]
        rfl

end Highlight.Html
