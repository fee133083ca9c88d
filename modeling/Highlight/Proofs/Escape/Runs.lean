/-
Patterns that run over special characters: quoted texts, texts between
slashes and comments.

Their ends move when a text is escaped, by as much as the text before
them grows. Inside quotes an entity is a row of units, or the second half
of a pair and some units, since it holds no quote and no backslash
(`quotedRun_escape`).
-/
import Highlight.Proofs.Escape.Shy
import Highlight.Proofs.Regex.Quoted

namespace Highlight

open Html (escape entityNames entityChars)
open Regex (quotedRun quotedLength? slashedLength? isSlashFlag Node)

-- ================================================================= runs

/-- The character is no part of an escaped character but of itself. -/
def Html.IsPlain (q : Char) : Prop := q ∉ Html.specials ∧ q ∉ entityChars

instance (q : Char) : Decidable (Html.IsPlain q) :=
  inferInstanceAs (Decidable (_ ∧ _))

namespace Regex

variable {q : Char}

/-- Characters that are neither closing nor a backslash are units. -/
theorem quotedRun_append {v : Text} (hv : ∀ c ∈ v, c ≠ '\\' ∧ c ≠ q)
    (r : Text) : quotedRun q (v ++ r) = v.length + quotedRun q r := by
  induction v with
  | nil => exact (Nat.zero_add _).symm
  | cons c v ih =>
      obtain ⟨hback, hq⟩ := hv c List.mem_cons_self
      rw [List.cons_append, quotedRun_single hback hq, List.length_cons,
        ih fun d hd => hv d (List.mem_cons_of_mem c hd)]
      omega

/-- A run over an escaped text reaches to the same place. -/
theorem quotedRun_escape (hplain : Html.IsPlain q) (hq : q ≠ '\\')
    (t : Text) :
    quotedRun q (Html.escape t)
      = (Html.escape (t.take (quotedRun q t))).length := by
  have hentity : ∀ x ∈ entityChars, x ≠ '\\' ∧ x ≠ q := by
    intro x hx
    refine ⟨?_, fun e => hplain.2 (e ▸ hx)⟩
    rintro rfl
    exact absurd hx (by decide)
  have hself : Html.escapeChar '\\' = ['\\'] := rfl
  have hstop : ∀ t u, quotedUnit q t = 0 → quotedUnit q u = 0 →
      quotedRun q u = (Html.escape (t.take (quotedRun q t))).length := by
    intro t u ht hu
    rw [quotedRun_eq_zero ht, quotedRun_eq_zero hu]
    rfl
  induction t using quoted_induction q with
  | nil => exact hstop [] [] rfl rfl
  | closing t =>
      rw [Html.escape_cons, Html.escapeChar_of_not_mem hplain.1]
      exact hstop _ _ (quotedUnit_closing hq t) (quotedUnit_closing hq _)
  | lone => exact hstop _ _ (quotedUnit_lone q) (quotedUnit_lone q)
  | newline t =>
      exact hstop _ _ (quotedUnit_newline q t) (quotedUnit_newline q _)
  | pair d t hd ih =>
      -- escaped, the partner of a backslash may be an entity, whose name
      -- is then read as units of its own
      obtain ⟨x, w, he, hx, hw⟩ := Html.escapeChar_eq_cons d
      have hxn : x ≠ '\n' := by
        rcases hx with rfl | rfl
        · exact hd
        · decide
      rw [quotedRun_pair q hd, Nat.add_comm 2, List.take_succ_cons,
        List.take_succ_cons]
      simp only [Html.escape_cons, hself, he, List.cons_append,
        List.nil_append, List.length_cons, List.length_append]
      rw [quotedRun_pair q hxn,
        quotedRun_append fun y hy => hentity y (hw y hy), ih]
      omega
  | single c t hc hne ih =>
      have hchars : ∀ x ∈ Html.escapeChar c, x ≠ '\\' ∧ x ≠ q := by
        intro x hx
        rcases Html.mem_escapeChar hx with rfl | hx
        · exact ⟨hc, hne⟩
        · exact hentity x hx
      rw [quotedRun_single hc hne, Nat.add_comm 1, List.take_succ_cons,
        Html.escape_cons, Html.escape_cons, quotedRun_append hchars, ih,
        List.length_append]

/-- The closing character stands behind the escaped text if it does behind
the text. -/
theorem head?_drop_escape (hplain : Html.IsPlain q) (t : Text) (n : Nat) :
    ((Html.escape t).drop (Html.escape (t.take n)).length).head? = some q
      ↔ (t.drop n).head? = some q := by
  rw [Html.drop_escape, head?_escape]
  cases (t.drop n).head? with
  | none => rfl
  | some c =>
      rw [Option.map_some, Option.some_inj, Option.some_inj]
      split
      · next hc =>
        refine ⟨fun h => absurd (h ▸ by decide) hplain.2,
          fun h => absurd (h ▸ hc) hplain.1⟩
      · rfl

/-- One character more is taken. -/
theorem take_succ_of_head? {t : Text} {n : Nat}
    (h : (t.drop n).head? = some q) : t.take (n + 1) = t.take n ++ [q] := by
  rw [List.head?_drop] at h
  rw [List.take_add_one, h]
  rfl

/-- An escaped text begins with the closing character if the text does. -/
theorem escapeChar_cons_ne (hplain : Html.IsPlain q) {c : Char} (hc : c ≠ q)
    (t : Text) : ∃ d r, d ≠ q ∧ Html.escape (c :: t) = d :: r := by
  obtain ⟨d, w, he, hd, -⟩ := Html.escapeChar_eq_cons c
  refine ⟨d, w ++ Html.escape t, ?_, ?_⟩
  · rcases hd with rfl | rfl
    · exact hc
    · exact fun h => hplain.2 (h ▸ by decide)
  · rw [Html.escape_cons, he]
    rfl

/-- A quoted text is as long as its escaped form. -/
theorem quotedLength?_escape (hplain : Html.IsPlain q) (hq : q ≠ '\\')
    (t : Text) :
    quotedLength? q (Html.escape t)
      = (quotedLength? q t).map fun n => (Html.escape (t.take n)).length := by
  cases t with
  | nil => rfl
  | cons c t =>
      by_cases hc : c = q
      · subst hc
        have hself := Html.escapeChar_of_not_mem hplain.1
        have hclose := head?_drop_escape hplain t (quotedRun c t)
        rw [Html.escape_cons, hself, List.singleton_append,
          quotedLength?_cons, quotedLength?_cons,
          quotedRun_escape hplain hq]
        by_cases hend : (t.drop (quotedRun c t)).head? = some c
        · rw [if_pos ⟨rfl, hclose.2 hend⟩, if_pos ⟨rfl, hend⟩,
            Option.map_some, List.take_succ_cons, take_succ_of_head? hend,
            Html.escape_cons, Html.escape_append, hself]
          have hlast : Html.escape [c] = [c] := by
            rw [Html.escape_cons, hself]
            rfl
          rw [hlast]
          simp only [List.length_append, List.length_cons, List.length_nil]
          congr 1
          omega
        · rw [if_neg fun h => hend (hclose.1 h.2), if_neg fun h => hend h.2]
          rfl
      · obtain ⟨d, r, hd, he⟩ := escapeChar_cons_ne hplain hc t
        rw [he, quotedLength?_cons, quotedLength?_cons,
          if_neg fun h => hd h.1, if_neg fun h => hc h.1]
        rfl

/-- No flag behind a slash is ever escaped. -/
theorem slashFlag_special : ∀ c ∈ Html.specials, isSlashFlag c = false := by
  intro c hc
  rcases Html.special_cases hc with rfl | rfl | rfl <;> rfl

/-- So is a text between slashes. -/
theorem slashedLength?_escape (t : Text) :
    slashedLength? (Html.escape t)
      = (slashedLength? t).map fun n => (Html.escape (t.take n)).length := by
  have hplain : Html.IsPlain '/' := by decide
  cases t with
  | nil => rfl
  | cons c t =>
      by_cases hc : c = '/'
      · subst hc
        have hself : Html.escapeChar '/' = ['/'] := rfl
        have hclose := head?_drop_escape hplain t (quotedRun '/' t)
        have hrun := quotedRun_escape hplain (by decide) t
        have hpos : 0 < quotedRun '/' (Html.escape t)
            ↔ 0 < quotedRun '/' t := by
          have hle := Html.length_le_escape (t.take (quotedRun '/' t))
          rw [List.length_take_of_le (quotedRun_le '/' t)] at hle
          refine ⟨fun h => Nat.pos_of_ne_zero fun hz => ?_, fun h => ?_⟩
          · rw [hrun, hz] at h
            exact absurd h (Nat.lt_irrefl 0)
          · omega
        rw [Html.escape_cons, hself, List.singleton_append,
          slashedLength?_cons, slashedLength?_cons]
        -- Three parts are escaped each for itself: the quoted run, the
        -- slash behind it, and the flags.
        by_cases hend : 0 < quotedRun '/' t
            ∧ (t.drop (quotedRun '/' t)).head? = some '/'
        · obtain ⟨hlt, hend⟩ := hend
          have htake := take_succ_of_head? hend
          have hbehind : (Html.escape (t.take (quotedRun '/' t + 1))).length
              = quotedRun '/' (Html.escape t) + 1 := by
            rw [htake, Html.escape_append, List.length_append, hrun]
            rfl
          obtain ⟨hflags, hself'⟩ := Html.takeWhile_escape slashFlag_special
            (t.drop (quotedRun '/' t + 1))
          have hpre := List.prefix_iff_eq_take.1
            (List.takeWhile_prefix isSlashFlag
              (l := t.drop (quotedRun '/' t + 1)))
          rw [if_pos ⟨rfl, hpos.2 hlt, by rw [hrun]; exact hclose.2 hend⟩,
            if_pos ⟨rfl, hlt, hend⟩, Option.map_some, ← hbehind,
            Html.drop_escape, hflags]
          generalize (t.drop (quotedRun '/' t + 1)).takeWhile isSlashFlag
            = flags at hpre hself'
          have hadd : quotedRun '/' t + 2 + flags.length
              = (quotedRun '/' t + 1 + flags.length) + 1 := by omega
          rw [hadd, List.take_succ_cons, List.take_add, ← hpre,
            Html.escape_cons, hself, Html.escape_append, hself']
          simp only [List.length_append, List.length_cons, List.length_nil]
          congr 1
          omega
        · rw [if_neg fun h => hend ⟨hpos.1 h.2.1, hclose.1 (hrun ▸ h.2.2)⟩,
            if_neg fun h => hend h.2]
          rfl
      · obtain ⟨d, r, hd, he⟩ := escapeChar_cons_ne hplain hc t
        rw [he, slashedLength?_cons, slashedLength?_cons,
          if_neg fun h => hd h.1, if_neg fun h => hc h.1]
        rfl

end Regex

-- ============================================================= patterns

namespace Pattern

variable {p : Pattern}

/-- A pattern is known to be escapable by the length of its matches on the
rest of a line, if it needs a first character that is no part of an
entity. -/
theorem escapable_of_length {f : Text → Option Nat}
    (hp : ∀ t, '\n' ∉ t → p.matchLength? t = .ok (f t))
    (hescape : ∀ t, '\n' ∉ t →
      f (escape t) = (f t).map fun n => (escape (t.take n)).length)
    (hzero : ∀ t, f t ≠ some 0)
    (hfirst : ∀ c t, c ∈ Html.specials ∨ c ∈ entityChars →
      f (c :: t) = none) :
    p.Escapable := by
  -- The rest of an entity begins with a character of one, at which the
  -- pattern does not match.
  have hname : ∀ w ∈ [] :: entityNames, ∃ c v, w ++ [';'] = c :: v
      ∧ c ∈ entityChars ∧ '\n' ∉ w := by
    intro w hw
    have hall : ∀ w ∈ [] :: entityNames,
        (w ++ [';']).head?.any (· ∈ entityChars) = true ∧ '\n' ∉ w := by
      decide
    obtain ⟨hhead, hclean⟩ := hall w hw
    cases hv : w ++ [';'] with
    | nil =>
        rw [hv] at hhead
        cases hhead
    | cons c v =>
        rw [hv] at hhead
        exact ⟨c, v, rfl, of_decide_eq_true hhead, hclean⟩
  constructor
  case escape_eq =>
    intro t ht
    refine ⟨f t, hp t ht, ?_⟩
    rw [hp _ (Html.lineFeed_not_mem_escape ht), hescape t ht]
  case ne_zero =>
    intro t ht h
    rw [hp t ht] at h
    exact hzero t (Except.ok.inj h)
  case special =>
    intro c hc t ht
    have hclean : '\n' ∉ c :: t := by
      rw [List.mem_cons, not_or]
      refine ⟨?_, ht⟩
      rintro rfl
      exact absurd hc (by decide)
    rw [hp _ hclean, hfirst c t (Or.inl hc)]
  case entity =>
    intro w hw t ht
    obtain ⟨c, v, hv, hc, hclean⟩ := hname w hw
    have hsplit : w ++ ';' :: t = c :: (v ++ t) := by
      rw [← List.cons_append, ← hv, List.append_assoc]
      rfl
    have hleft : '\n' ∉ w ++ ';' :: t := by
      simp [hclean, ht]
    have hright : '\n' ∉ w ++ [';'] := by
      simp [hclean]
    rw [hp _ hleft, hp _ hright, hsplit, hv, hfirst c _ (Or.inr hc),
      hfirst c _ (Or.inr hc)]

/-- No quoted text begins inside an entity. -/
theorem quotedLength?_first {q : Char} (hq : Html.IsPlain q) {c : Char}
    {t : Text} (hc : c ∈ Html.specials ∨ c ∈ entityChars) :
    quotedLength? q (c :: t) = none := by
  rw [Regex.quotedLength?_cons, if_neg]
  rintro ⟨rfl, -⟩
  rcases hc with hc | hc
  · exact hq.1 hc
  · exact hq.2 hc

/-- The rule for strings cannot tell a text from its escaped form. -/
theorem escapable_strings (hp : p.node = .anchored .strings) :
    p.Escapable := by
  have hdouble : Html.IsPlain '"' := by decide
  have hsingle : Html.IsPlain '\'' := by decide
  refine escapable_of_length (fun t _ => matchLength?_strings hp t)
    (fun t _ => ?_) (fun t h => ?_) fun c t hc => ?_
  · rw [Regex.quotedLength?_escape hdouble (by decide),
      Regex.quotedLength?_escape hsingle (by decide)]
    cases quotedLength? '"' t <;> rfl
  · rcases Option.or_eq_some_iff.1 h with h | ⟨-, h⟩
    · exact absurd (quotedLength?_le h).1 (by decide)
    · exact absurd (quotedLength?_le h).1 (by decide)
  · rw [quotedLength?_first hdouble hc, quotedLength?_first hsingle hc]
    rfl

/-- Nor can the rule for texts between slashes. -/
theorem escapable_slashed (hp : p.node = .anchored .slashed) :
    p.Escapable := by
  refine escapable_of_length (fun t _ => matchLength?_slashed hp t)
    (fun t _ => Regex.slashedLength?_escape t) (fun t h => ?_)
    fun c t hc => ?_
  · exact absurd (slashedLength?_le h).1 (by decide)
  · rw [Regex.slashedLength?_cons, if_neg]
    rintro ⟨rfl, -⟩
    exact absurd hc (by decide)

/-- Nor can a comment, unless its delimiter is escaped. -/
theorem escapable_comment {w : Text} (hne : w ≠ [])
    (hw : ∀ c ∈ w, Html.IsPlain c) (hp : p.node = .anchored (.comment w)) :
    p.Escapable := by
  have hspecial : ∀ c ∈ w, c ∉ Html.specials := fun c hc => (hw c hc).1
  refine escapable_of_length (fun t ht => matchLength?_comment hp ht)
    (fun t _ => ?_) (fun t h => ?_) fun c t hc => ?_
  · rw [Html.isPrefixOf_escape hspecial]
    split
    · rw [Option.map_some, List.take_length]
    · rfl
  · split at h
    · next hpre =>
      have hle := (List.isPrefixOf_iff_prefix.1 hpre).length_le
      have hlen := List.length_pos_iff.2 hne
      have := Option.some.inj h
      omega
    · cases h
  · obtain ⟨d, w, rfl⟩ := List.exists_cons_of_ne_nil hne
    have hd := hw d List.mem_cons_self
    rw [List.isPrefixOf_cons_cons, if_neg]
    rw [Bool.and_eq_true, beq_iff_eq]
    rintro ⟨rfl, -⟩
    rcases hc with hc | hc
    · exact hd.1 hc
    · exact hd.2 hc

end Pattern

end Highlight
