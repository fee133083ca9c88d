/-
Matches that end at the edge of a word.

Patterns see no text in front of them, so whether a token begins within a
word is settled by the one before it, where that stops. Runs of blanks or
of word characters, listed words and comments never stop between two word
characters of their line (`Pattern.StopsAtEdge`), and so not between two
of the whole text either (`Text.inWord_restAt`).
-/
import Highlight.Proofs.Regex.Choice
import Highlight.Proofs.Text.Offset

namespace Highlight

open Text (isWordChar InWord restAt)

/-- No match in a line ends between two word characters. -/
def Pattern.StopsAtEdge (p : Pattern) : Prop :=
  ∀ t n, '\n' ∉ t → p.matchLength? t = .ok (some n) → ¬ InWord t n

-- =============================================================== places

namespace Text

variable {t : Text} {o n : Nat}

/-- A place within a word of a text is one within a word of its line. -/
theorem inWord_restAt (hn : 0 < n) (hle : n ≤ (restAt t o).length)
    (h : InWord t (o + n)) : InWord (restAt t o) n := by
  obtain ⟨hleft, hright⟩ := h
  have hsplit : restAt t o ++ afterFirstLine (t.drop o) = t.drop o :=
    firstLine_append_afterFirstLine (t.drop o)
  constructor
  · have hne : (restAt t o).take n ≠ [] := by
      rw [← List.length_pos_iff, List.length_take_of_le hle]
      exact hn
    rw [List.take_add, ← hsplit, List.take_append_of_le_length hle,
      List.getLast?_append_of_ne_nil _ hne] at hleft
    exact hleft
  · rw [← List.drop_drop, ← hsplit, List.drop_append_of_le_length hle]
      at hright
    cases hrest : (restAt t o).drop n with
    | cons c r =>
        rw [hrest] at hright
        exact hright
    | nil =>
        -- behind the line comes a line feed or nothing
        have hfeed := any_head?_dropWhile (· != '\n') (t.drop o)
        rw [hrest, List.nil_append] at hright
        change (afterFirstLine (t.drop o)).head?.any _ = false at hfeed
        cases hhead : (afterFirstLine (t.drop o)).head? with
        | none =>
            rw [hhead] at hright
            cases hright
        | some c =>
            rw [hhead] at hright hfeed
            obtain rfl : c = '\n' := by simpa using hfeed
            exact absurd hright (by decide)

/-- Where the rest of a line begins with no word character, no word goes on
behind its first character. -/
theorem not_inWord_succ (ho : o < t.length)
    (h : (restAt t o).head?.any isWordChar = false) :
    ¬ InWord t (o + 1) := by
  rintro ⟨hleft, -⟩
  unfold restAt at h
  rw [List.drop_eq_getElem_cons ho] at h
  rw [List.take_add_one, List.getElem?_eq_getElem ho] at hleft
  generalize t[o] = c at hleft h
  rw [Option.toList_some, List.getLast?_concat] at hleft
  have hc : c ≠ '\n' := by
    rintro rfl
    exact absurd hleft (by decide)
  rw [firstLine, List.takeWhile_cons_of_pos (by simpa using hc)] at h
  exact absurd (hleft.symm.trans h) (by decide)

/-- Behind a character that is no word character no word goes on. -/
theorem not_inWord_of_last {c : Char} (hlast : (t.take n).getLast? = some c)
    (hc : isWordChar c = false) : ¬ InWord t n := by
  rintro ⟨hleft, -⟩
  rw [hlast, Option.any_some, hc] at hleft
  cases hleft

/-- A run of characters of a kind ends with one of them. -/
theorem exists_last_of_run {q : Char → Bool} (h : t.head?.any q = true) :
    ∃ c, (t.take (t.takeWhile q).length).getLast? = some c ∧ q c = true := by
  have hne : t.takeWhile q ≠ [] := by
    cases t with
    | nil => cases h
    | cons c t =>
        rw [List.takeWhile_cons_of_pos (p := q) h]
        exact List.cons_ne_nil _ _
  refine ⟨(t.takeWhile q).getLast hne, ?_,
    List.mem_takeWhile_imp (List.getLast_mem hne)⟩
  rw [← List.prefix_iff_eq_take.1 (List.takeWhile_prefix q)]
  exact List.getLast?_eq_some_getLast hne

/-- No blank is a word character. -/
theorem isWordChar_of_blank {c : Char}
    (h : Unicode.blanks.mem c.toNat = true) : isWordChar c = false := by
  have hall : ∀ r ∈ Unicode.blanks, ∀ i < r.2 + 1 - r.1,
      Unicode.isWord (r.1 + i) = false := by
    decide +kernel
  obtain ⟨r, hr, hlo, hhi⟩ := Unicode.Ranges.exists_of_mem h
  have hword := hall r hr (c.toNat - r.1) (by omega)
  rw [Nat.add_sub_cancel' hlo] at hword
  exact hword

end Text

-- ============================================================= patterns

namespace Pattern

variable {p : Pattern} {ws : List Text} {d : Text}

theorem stopsAtEdge_of_listed (hne : ws ≠ [])
    (hp : p.node = .anchored (.listed ws)) : p.StopsAtEdge :=
  fun _ _ _ hm => (exists_of_matchLength?_listed hne hp hm).2

theorem stopsAtEdge_of_wordRun (hp : p.node = .anchored .wordRun) :
    p.StopsAtEdge := by
  intro t n _ hm
  rw [matchLength?_wordRun hp] at hm
  split at hm
  · cases hm
    exact not_inWord_takeWhile t
  · cases hm

/-- Where no word characters are found there is none. -/
theorem any_head?_of_no_wordRun (hp : p.node = .anchored .wordRun)
    {t : Text} (hm : p.matchLength? t = .ok none) :
    t.head?.any isWordChar = false := by
  rw [matchLength?_wordRun hp] at hm
  split at hm
  · cases hm
  · next hno => exact Bool.eq_false_iff.2 hno

/-- A comment takes all that is left of the line. -/
theorem stopsAtEdge_of_comment (hp : p.node = .anchored (.comment d)) :
    p.StopsAtEdge := by
  intro t n ht hm
  rw [matchLength?_comment hp ht] at hm
  split at hm
  · cases hm
    rintro ⟨-, hright⟩
    rw [List.drop_length] at hright
    cases hright
  · cases hm

/-- A run of blanks ends with one of them. -/
theorem stopsAtEdge_of_blankRun (hp : p.node = .anchored .blankRun) :
    p.StopsAtEdge := by
  intro t n _ hm
  have hset : (Regex.CharSet.ofCategory false .space false).mem
      = fun c => Unicode.blanks.mem c.toNat := by
    funext c
    show ([Regex.Member.category .space false].any _ != false) = _
    simp [Regex.Member.mem, Regex.Category.mem]
  rw [matchLength?_run hp, hset] at hm
  split at hm
  · next hfirst =>
    cases hm
    obtain ⟨c, hlast, hc⟩ := Text.exists_last_of_run hfirst
    exact Text.not_inWord_of_last hlast (Text.isWordChar_of_blank hc)
  · cases hm

end Pattern

end Highlight
