/-
Patterns that run on to a closing character.

Inside quotes stand units: a pair of a backslash and another character, or
a single character that is neither a backslash nor the closing one. No
unit begins with the closing character, so a match takes all units there
are and closes behind them or not at all: what is matched can be read off
the text from left to right (`quotedLength?`, `slashedLength?`).
-/
import Highlight.Proofs.Regex.Lockstep
import Highlight.Proofs.Regex.Word
import Mathlib.Data.List.TakeWhile

namespace Highlight.Regex

-- ========================================================== vocabulary

/-- The length of the unit at the start of a text. -/
def quotedUnit (q : Char) : Text → Nat
  | [] => 0
  | [c] => if c = '\\' ∨ c = q then 0 else 1
  | c :: d :: _ =>
    if c = '\\' then if d = '\n' then 0 else 2
    else if c = q then 0 else 1

theorem quotedUnit_le (q : Char) (t : Text) : quotedUnit q t ≤ t.length := by
  unfold quotedUnit
  split
  · exact Nat.le_refl 0
  · split <;> simp
  · split <;> split <;> simp

/-- The length of all units at the start of a text. -/
def quotedRun (q : Char) (t : Text) : Nat :=
  if quotedUnit q t = 0 then 0
  else quotedUnit q t + quotedRun q (t.drop (quotedUnit q t))
termination_by t.length
decreasing_by
  have := quotedUnit_le q t
  rw [List.length_drop]
  omega

/-- The length of a quoted text with its quotes. -/
def quotedLength? (q : Char) : Text → Option Nat
  | [] => none
  | c :: t =>
    if c = q ∧ (t.drop (quotedRun q t)).head? = some q then
      some (quotedRun q t + 2)
    else none

/-- The flags that may follow a text between slashes. -/
def isSlashFlag (c : Char) : Bool := ['g', 'i', 'm', 'y'].contains c

/-- The length of a text between slashes with the slashes and the flags. -/
def slashedLength? : Text → Option Nat
  | [] => none
  | c :: t =>
    let n := quotedRun '/' t
    if c = '/' ∧ 0 < n ∧ (t.drop n).head? = some '/' then
      some (n + 2 + ((t.drop (n + 1)).takeWhile isSlashFlag).length)
    else none

namespace Node

/-- A pattern for one character. -/
def char (c : Char) : Node := .one (.char .exact c.toNat)

/-- One unit of a quoted text. -/
def unit (q : Char) : Node :=
  .alt (.one (.listed [.char q.toNat, .char 92] true .exact false))
    (.alt (.seq (.char '\\') (.one (.dot false))) .fail)

/-- A quoted text. -/
def quoted (q : Char) (group : Nat) : Node :=
  .seq (.char q)
    (.seq (.loop .greedy 0 none (.group group (.unit q))) (.char q))

/-- A text between slashes. -/
def slashed : Node :=
  .seq (.char '/')
    (.seq (.loop .greedy 1 none (.group 1 (.unit '/')))
      (.seq (.char '/')
        (.span .greedy 0 none
          (.listed [.char 103, .char 105, .char 109, .char 121] false
            .exact false))))

/-- A text in double or in single quotes. -/
def strings : Node :=
  .alt (.quoted '"' 1) (.alt (.quoted '\'' 2) .fail)

/-- A word and the rest of the line. -/
def comment (w : Text) : Node :=
  .ofList (w.map char
    ++ [.span .greedy 0 none (.dot false), .assertion .lastLineEnd])

/-- A node at the start of the text only. -/
def anchored (n : Node) : Node :=
  .seq (.assertion .start) n

end Node

-- =============================================================== skips

namespace Spot

/-- The last spot that is reached lies behind all characters of the
set. -/
theorem getLast?_reach_left (set : CharSet) (s : Spot) :
    (s.reach set s.left).getLast?
      = some (s.skip (s.after.takeWhile (set.mem ·)).length) := by
  rw [s.left_eq]
  generalize hr : s.after = r
  induction r generalizing s with
  | nil =>
      show [s].getLast? = some (s.skip 0)
      rw [skip_zero]
      rfl
  | cons c r ih =>
      rw [List.length_cons, reach, step?_cons hr]
      cases hc : set.mem c with
      | true =>
          rw [if_pos rfl,
            List.takeWhile_cons_of_pos (p := (set.mem ·)) hc,
            List.length_cons, Nat.add_comm, ← skip_skip,
            ← ih (s.skip 1) (after_skip_one hr)]
          exact List.getLast?_cons_of_ne_nil (reach_ne_nil _)
      | false =>
          rw [if_neg (by decide),
            List.takeWhile_cons_of_neg (p := (set.mem ·)) (by simp [hc])]
          show [s].getLast? = some (s.skip 0)
          rw [skip_zero]
          rfl

/-- A greedy span without bounds prefers to take all characters of its
set. -/
theorem head?_spanEnds (set : CharSet) (s : Spot) :
    (spanEnds .greedy 0 none set s).head?
      = some (s.skip (s.after.takeWhile (set.mem ·)).length) := by
  show (((s.reach set s.left).drop 0).reverse).head? = _
  rw [List.head?_reverse, List.drop_zero, getLast?_reach_left]

end Spot

-- ================================================================ units

section Units

variable {q c d : Char}

/-- A quotation mark closes the text, so it is no part of it. -/
theorem quotedUnit_closing (hq : q ≠ '\\') (t : Text) :
    quotedUnit q (q :: t) = 0 := by
  cases t with
  | nil => exact if_pos (Or.inr rfl)
  | cons d t => exact (if_neg hq).trans (if_pos rfl)

/-- A backslash at the end stands for nothing. -/
theorem quotedUnit_lone (q : Char) : quotedUnit q ['\\'] = 0 := by
  rw [quotedUnit, if_pos (Or.inl rfl)]

/-- A backslash cannot hide the end of a line. -/
theorem quotedUnit_newline (q : Char) (t : Text) :
    quotedUnit q ('\\' :: '\n' :: t) = 0 := by
  rw [quotedUnit, if_pos rfl, if_pos rfl]

/-- A backslash and another character are taken together. -/
theorem quotedUnit_pair (q : Char) (hd : d ≠ '\n') (t : Text) :
    quotedUnit q ('\\' :: d :: t) = 2 := by
  rw [quotedUnit, if_pos rfl, if_neg hd]

/-- Any other character is taken alone. -/
theorem quotedUnit_single (hc : c ≠ '\\') (hq : c ≠ q) (t : Text) :
    quotedUnit q (c :: t) = 1 := by
  cases t with
  | nil => exact if_neg (not_or.2 ⟨hc, hq⟩)
  | cons d t => exact (if_neg hc).trans (if_neg hq)

/-- A text is read unit by unit. It has no first unit if it is empty, if it
begins with the closing character, or if its backslash has no partner. -/
@[elab_as_elim]
theorem quoted_induction (q : Char) {motive : Text → Prop}
    (nil : motive [])
    (closing : ∀ t, q ≠ '\\' → motive (q :: t))
    (lone : motive ['\\'])
    (newline : ∀ t, motive ('\\' :: '\n' :: t))
    (pair : ∀ d t, d ≠ '\n' → motive t → motive ('\\' :: d :: t))
    (single : ∀ c t, c ≠ '\\' → c ≠ q → motive t → motive (c :: t)) :
    ∀ t, motive t
  | [] => nil
  | [c] => by
      by_cases hc : c = '\\'
      · exact hc ▸ lone
      by_cases hq : c = q
      · exact hq ▸ closing [] (hq ▸ hc)
      · exact single c [] hc hq nil
  | c :: d :: t => by
      by_cases hc : c = '\\'
      · subst hc
        by_cases hd : d = '\n'
        · exact hd ▸ newline t
        · exact pair d t hd (quoted_induction q nil closing lone newline pair
            single t)
      by_cases hq : c = q
      · exact hq ▸ closing (d :: t) (hq ▸ hc)
      · exact single c (d :: t) hc hq (quoted_induction q nil closing lone
          newline pair single (d :: t))

/-- No unit begins with the closing character. -/
theorem head?_ne_of_quotedUnit {t : Text} (h : quotedUnit q t ≠ 0)
    (hq : q ≠ '\\') : t.head? ≠ some q := by
  intro he
  cases t with
  | nil => cases he
  | cons c t =>
      cases he
      exact h (quotedUnit_closing hq t)

/-- A run of units is the first unit and the run behind it. -/
theorem quotedRun_eq (q : Char) (t : Text) :
    quotedRun q t
      = if quotedUnit q t = 0 then 0
        else quotedUnit q t + quotedRun q (t.drop (quotedUnit q t)) := by
  rw [quotedRun]

/-- A run without a first unit is empty. -/
theorem quotedRun_eq_zero {t : Text} (h : quotedUnit q t = 0) :
    quotedRun q t = 0 := by
  rw [quotedRun_eq, if_pos h]

theorem quotedRun_pair (q : Char) (hd : d ≠ '\n') (t : Text) :
    quotedRun q ('\\' :: d :: t) = 2 + quotedRun q t := by
  rw [quotedRun_eq, quotedUnit_pair q hd]
  rfl

theorem quotedRun_single (hc : c ≠ '\\') (hq : c ≠ q) (t : Text) :
    quotedRun q (c :: t) = 1 + quotedRun q t := by
  rw [quotedRun_eq, quotedUnit_single hc hq]
  rfl

/-- A run is part of the text. -/
theorem quotedRun_le (q : Char) (t : Text) : quotedRun q t ≤ t.length := by
  induction t using quoted_induction q with
  | nil =>
      rw [quotedRun_eq_zero rfl]
      exact Nat.le_refl 0
  | closing t hq =>
      rw [quotedRun_eq_zero (quotedUnit_closing hq t)]
      exact Nat.zero_le _
  | lone =>
      rw [quotedRun_eq_zero (quotedUnit_lone q)]
      exact Nat.zero_le _
  | newline t =>
      rw [quotedRun_eq_zero (quotedUnit_newline q t)]
      exact Nat.zero_le _
  | pair d t hd ih =>
      rw [quotedRun_pair q hd, List.length_cons, List.length_cons]
      omega
  | single c t hc hq ih =>
      rw [quotedRun_single hc hq, List.length_cons]
      omega

end Units

/-- The set excludes the quotation mark and the backslash, and nothing
else. -/
theorem mem_unit (q c : Char) :
    (CharSet.listed [.char q.toNat, .char 92] true .exact false).mem c
      = !(c == q || c == '\\') := by
  have hback : (92 : Nat) = '\\'.toNat := rfl
  rw [CharSet.mem_listed_exact, hback]
  show ((c.toNat == q.toNat || (c.toNat == '\\'.toNat || false)) != true) = _
  rw [toNat_beq, toNat_beq, Bool.or_false, Bool.bne_true]

/-- A place for one character has one end or none. -/
theorem ends_char (c : Char) (s : Spot) :
    (Node.char c).ends s
      = if s.after.head? = some c then [s.skip 1] else [] := by
  unfold Node.char Node.ends
  cases hs : s.after with
  | nil =>
      rw [Spot.step?_nil hs]
      rfl
  | cons d r =>
      rw [Spot.step?_cons hs, List.head?_cons]
      by_cases hd : d = c
      · rw [if_pos (mem_char_iff.2 hd), if_pos (congrArg some hd)]
        rfl
      · rw [if_neg fun h => hd (mem_char_iff.1 h),
          if_neg fun h => hd (Option.some.inj h)]
        rfl

/-- A unit has one end, behind it. -/
theorem ends_unit (q : Char) (s : Spot) :
    (Node.unit q).ends s
      = if quotedUnit q s.after = 0 then []
        else [s.skip (quotedUnit q s.after)] := by
  have hpair : (Node.seq (.char '\\') (.one (.dot false))).ends s
      = if s.after.head? = some '\\' then
          ((s.skip 1).step? (.dot false)).toList
        else [] := by
    unfold Node.ends
    rw [ends_char]
    split
    · rw [List.flatMap_singleton]
      rfl
    · rfl
  have hunit : (Node.unit q).ends s
      = (s.step? (.listed [.char q.toNat, .char 92] true .exact false)).toList
        ++ (Node.seq (.char '\\') (.one (.dot false))).ends s := by
    show _ ++ (_ ++ []) = _
    rw [List.append_nil]
    rfl
  rw [hunit, hpair]
  obtain ⟨t, hs⟩ : ∃ t, s.after = t := ⟨_, rfl⟩
  rw [hs]
  -- The cases are those of the reader: what begins a unit decides which of
  -- the two alternatives takes it.
  induction t using quoted_induction q with
  | nil =>
      rw [Spot.step?_nil hs]
      rfl
  | closing t hq =>
      have hmem : (!(q == q || q == '\\')) = false := by simp
      rw [Spot.step?_cons hs, mem_unit, hmem, quotedUnit_closing hq,
        List.head?_cons, if_neg fun h => hq (Option.some.inj h)]
      rfl
  | lone =>
      have hmem : (!('\\' == q || '\\' == '\\')) = false := by simp
      rw [Spot.step?_cons hs, mem_unit, hmem, quotedUnit_lone,
        Spot.step?_nil (Spot.after_skip_one hs)]
      rfl
  | newline t =>
      have hmem : (!('\\' == q || '\\' == '\\')) = false := by simp
      rw [Spot.step?_cons hs, mem_unit, hmem, quotedUnit_newline,
        Spot.step?_cons (Spot.after_skip_one hs)]
      rfl
  | pair d t hd =>
      have hmem : (!('\\' == q || '\\' == '\\')) = false := by simp
      have hdot : (CharSet.dot false).mem d = true := by
        simpa [CharSet.mem] using hd
      rw [Spot.step?_cons hs, mem_unit, hmem, quotedUnit_pair q hd,
        Spot.step?_cons (Spot.after_skip_one hs), hdot, Spot.skip_skip]
      rfl
  | single c t hc hq =>
      have hmem : (!(c == q || c == '\\')) = true := by simp [hc, hq]
      rw [Spot.step?_cons hs, mem_unit, hmem, quotedUnit_single hc hq,
        List.head?_cons, if_neg fun h => hc (Option.some.inj h)]
      rfl

-- ================================================================= runs

/-- A loop over units goes on behind all of them, if what follows cannot
begin where a unit does. -/
theorem flatMap_greedyEnds {q : Char} {d : Spot → List Spot}
    (hd : ∀ s : Spot, quotedUnit q s.after ≠ 0 → d s = [])
    {n : Nat} {s : Spot} (hn : s.left < n) {last : Option Nat}
    (hlast : last ≠ some s.pos) :
    (greedyEnds (Node.unit q).ends n last s).flatMap d
      = d (s.skip (quotedRun q s.after)) := by
  induction n generalizing s last with
  | zero => exact absurd hn (Nat.not_lt_zero _)
  | succ n ih =>
      rw [greedyEnds, if_neg hlast, ends_unit, quotedRun_eq]
      by_cases hunit : quotedUnit q s.after = 0
      · rw [if_pos hunit, if_pos hunit, s.skip_zero]
        exact List.flatMap_singleton _ _
      · have hle := quotedUnit_le q s.after
        have hpos := Spot.pos_skip hle
        have htotal : s.pos + s.left = (s.skip (quotedUnit q s.after)).pos
            + (s.skip (quotedUnit q s.after)).left :=
          (Spot.leads_skip s _).total
        rw [if_neg hunit, if_neg hunit, List.flatMap_singleton,
          List.flatMap_append, List.flatMap_singleton, hd s hunit,
          List.append_nil, ih (by omega) (by
            rw [hpos]
            exact fun h => hunit (by have := Option.some.inj h; omega)),
          Spot.skip_skip]
        rfl

/-- The closing character ends no run early. -/
theorem ends_closing_eq_nil {q : Char} (hq : q ≠ '\\') {s : Spot}
    (h : quotedUnit q s.after ≠ 0) : (Node.char q).ends s = [] := by
  rw [ends_char, if_neg (head?_ne_of_quotedUnit h hq)]

theorem quotedLength?_cons (q c : Char) (t : Text) :
    quotedLength? q (c :: t)
      = if c = q ∧ (t.drop (quotedRun q t)).head? = some q then
          some (quotedRun q t + 2)
        else none := rfl

theorem slashedLength?_cons (c : Char) (t : Text) :
    slashedLength? (c :: t)
      = if c = '/' ∧ 0 < quotedRun '/' t
            ∧ (t.drop (quotedRun '/' t)).head? = some '/' then
          some (quotedRun '/' t + 2
            + ((t.drop (quotedRun '/' t + 1)).takeWhile isSlashFlag).length)
        else none := rfl

/-- Quoted texts have one end. -/
theorem ends_quoted {q : Char} (hq : q ≠ '\\') (group : Nat) (s : Spot) :
    (Node.quoted q group).ends s
      = ((quotedLength? q s.after).map s.skip).toList := by
  unfold Node.quoted
  rw [Node.ends, ends_char]
  cases hs : s.after with
  | nil => rfl
  | cons c r =>
      have hafter := Spot.after_skip_one hs
      rw [List.head?_cons]
      by_cases hc : c = q
      · rw [if_pos (congrArg some hc), List.flatMap_singleton]
        have hturns : (s.skip 1).left < Search.turns 0 none (s.skip 1) := by
          show (s.skip 1).left < (s.skip 1).pos + (s.skip 1).left + 1
          omega
        have hrun := flatMap_greedyEnds (fun s h => ends_closing_eq_nil hq h)
          hturns (Option.some_ne_none _).symm
        show (greedyEnds (Node.unit q).ends _ none (s.skip 1)).flatMap _ = _
        rw [hrun, hafter, Spot.skip_skip, ends_char]
        have hdrop : (s.skip (1 + quotedRun q r)).after
            = r.drop (quotedRun q r) := by
          show s.after.drop _ = _
          rw [hs, Nat.add_comm, List.drop_succ_cons]
        rw [hdrop, quotedLength?_cons]
        by_cases hclose : (r.drop (quotedRun q r)).head? = some q
        · rw [if_pos hclose, if_pos ⟨hc, hclose⟩, Spot.skip_skip]
          show [s.skip _] = [s.skip _]
          congr 2
          omega
        · rw [if_neg hclose, if_neg fun h => hclose h.2]
          rfl
      · rw [if_neg fun h => hc (Option.some.inj h), quotedLength?_cons,
          if_neg fun h => hc h.1]
        rfl

/-- The flags are taken as far as they go. -/
theorem mem_slashFlags (c : Char) :
    (CharSet.listed [.char 103, .char 105, .char 109, .char 121] false .exact
      false).mem c = isSlashFlag c := by
  have hinj := toNat_beq c
  rw [CharSet.mem_listed_exact]
  show ((c.toNat == 'g'.toNat || (c.toNat == 'i'.toNat
    || (c.toNat == 'm'.toNat || (c.toNat == 'y'.toNat || false)))) != false)
    = _
  rw [hinj, hinj, hinj, hinj, Bool.bne_false]
  unfold isSlashFlag
  simp only [List.contains_cons, List.contains_nil]

/-- A run is empty just if there is no first unit. -/
theorem run_pos_iff (q : Char) (t : Text) :
    0 < quotedRun q t ↔ quotedUnit q t ≠ 0 := by
  rw [quotedRun_eq]
  split
  · next h => simp [h]
  · next h => omega

/-- At least one unit and all that follow, if what comes then cannot begin
where a unit does. -/
theorem flatMap_units {q : Char} (group : Nat) {d : Spot → List Spot}
    (hd : ∀ s : Spot, quotedUnit q s.after ≠ 0 → d s = []) (s : Spot) :
    ((Node.loop .greedy 1 none (.group group (.unit q))).ends s).flatMap d
      = if 0 < quotedRun q s.after then d (s.skip (quotedRun q s.after))
        else [] := by
  show (((Node.unit q).ends s).flatMap
    (greedyEnds (Node.unit q).ends (Search.turns 1 none s) none)).flatMap d = _
  rw [ends_unit]
  by_cases hunit : quotedUnit q s.after = 0
  · rw [if_pos hunit, if_neg fun h => (run_pos_iff q _).1 h hunit]
    rfl
  · have hleads := Spot.leads_skip s (quotedUnit q s.after)
    have htotal := hleads.total
    have hturns : Search.turns 1 none s = s.pos + s.left + 1 := rfl
    rw [if_neg hunit, if_pos ((run_pos_iff q _).2 hunit),
      List.flatMap_singleton, flatMap_greedyEnds hd (by omega)
        (fun h => by cases h), Spot.skip_skip]
    conv_rhs => rw [quotedRun_eq, if_neg hunit]
    rfl

/-- Where a text between slashes ends first. -/
theorem head?_ends_slashed (s : Spot) :
    (Node.slashed.ends s).head? = (slashedLength? s.after).map s.skip := by
  have hq : '/' ≠ '\\' := by decide
  unfold Node.slashed
  rw [Node.ends, ends_char]
  cases hs : s.after with
  | nil => rfl
  | cons c r =>
      have hafter := Spot.after_skip_one hs
      rw [List.head?_cons, slashedLength?_cons]
      by_cases hc : c = '/'
      · rw [if_pos (congrArg some hc), List.flatMap_singleton, Node.ends,
          flatMap_units 1 fun s h => by
            rw [Node.ends, ends_closing_eq_nil hq h]
            rfl, hafter]
        by_cases hrun : 0 < quotedRun '/' r
        · have hskip : ∀ n, (s.skip (1 + n)).after = r.drop n := by
            intro n
            show s.after.drop _ = _
            rw [hs, Nat.add_comm, List.drop_succ_cons]
          rw [if_pos hrun, Spot.skip_skip, Node.ends, ends_char, hskip]
          by_cases hclose : (r.drop (quotedRun '/' r)).head? = some '/'
          · rw [if_pos hclose, if_pos ⟨hc, hrun, hclose⟩,
              List.flatMap_singleton, Spot.skip_skip]
            show (spanEnds .greedy 0 none _ _).head? = _
            rw [Spot.head?_spanEnds, Nat.add_assoc, hskip, Spot.skip_skip,
              Option.map_some]
            simp only [mem_slashFlags]
            congr 2
            generalize ((r.drop (quotedRun '/' r + 1)).takeWhile
              fun x => isSlashFlag x).length = n
            omega
          · rw [if_neg hclose, if_neg fun h => hclose h.2.2]
            rfl
        · rw [if_neg hrun, if_neg fun h => hrun h.2.1]
          rfl
      · rw [if_neg fun h => hc (Option.some.inj h), if_neg fun h => hc h.1]
        rfl

-- ============================================================= comments

/-- The ends of two sequences in a row. -/
theorem ends_ofList_append (ns ms : List Node) (s : Spot) :
    (Node.ofList (ns ++ ms)).ends s
      = ((Node.ofList ns).ends s).flatMap (Node.ofList ms).ends := by
  induction ns generalizing s with
  | nil => exact (List.flatMap_singleton _ _).symm
  | cons n ns ih =>
      rw [List.cons_append, ends_ofList_cons, ends_ofList_cons,
        List.flatMap_assoc]
      exact List.flatMap_congr fun u _ => ih u

/-- Without a line feed a dot takes everything. -/
theorem takeWhile_dot {t : Text} (h : '\n' ∉ t) :
    t.takeWhile ((CharSet.dot false).mem ·) = t := by
  refine List.takeWhile_eq_self_iff.2 fun c hc => ?_
  have hne : c ≠ '\n' := fun e => h (e ▸ hc)
  simpa [CharSet.mem] using hne

/-- A comment reaches to the end of the line. -/
theorem head?_ends_comment (w : Text) {s : Spot} (h : '\n' ∉ s.after) :
    ((Node.comment w).ends s).head?
      = if w.isPrefixOf s.after then some (s.skip s.after.length)
        else none := by
  unfold Node.comment
  rw [ends_ofList_append]
  show (((Node.word w).ends s).flatMap _).head? = _
  rw [ends_word]
  by_cases hw : w.isPrefixOf s.after
  · have hle := (List.isPrefixOf_iff_prefix.1 hw).length_le
    have hclean : '\n' ∉ (s.skip w.length).after :=
      fun hm => h (List.mem_of_mem_drop hm)
    have hlen : (s.skip w.length).after.length
        = s.after.length - w.length := List.length_drop
    have hhead := Spot.head?_spanEnds (.dot false) (s.skip w.length)
    rw [takeWhile_dot hclean, hlen, Spot.skip_skip,
      Nat.add_sub_cancel' hle] at hhead
    obtain ⟨l, hl⟩ := List.head?_eq_some_iff.1 hhead
    have hend : (s.skip s.after.length).holds .lastLineEnd = true := by
      have hnil : (s.skip s.after.length).after = [] := List.drop_length
      show ((s.skip s.after.length).after.isEmpty || _) = true
      rw [hnil]
      rfl
    rw [if_pos hw, if_pos hw, List.flatMap_singleton]
    show ((spanEnds .greedy 0 none _ _).flatMap _).head? = _
    have hassert : (Node.assertion .lastLineEnd).ends
        (s.skip s.after.length) = [s.skip s.after.length] := if_pos hend
    rw [hl, List.flatMap_cons]
    show ((Node.assertion .lastLineEnd).ends _ ++ _).head? = _
    rw [hassert]
    rfl
  · rw [if_neg hw, if_neg hw]
    rfl

theorem isFlat_comment (w : Text) : (Node.comment w).IsFlat := by
  refine Node.isFlat_ofList (List.forall_mem_append.2 ⟨?_, ?_⟩)
  · exact List.forall_mem_map.2 fun _ _ => Node.isFlat_one _
  · simp only [List.forall_mem_cons]
    exact ⟨⟨rfl, fun _ => rfl⟩, ⟨rfl, fun _ => rfl⟩, nofun⟩

end Highlight.Regex

-- ============================================================= patterns

namespace Highlight.Pattern

open Regex (Spot Node quotedRun quotedLength? slashedLength? isSlashFlag)

variable {p : Pattern}

/-- A tree whose groups are numbered in order cannot get them crossed. -/
theorem isOrderly_of_anchored {n : Node} {g : Nat}
    (hp : p.node = .anchored n) (hplain : n.isPlain)
    (hnum : n.numbered 0 = some g) : p.isOrderly := by
  unfold isOrderly
  rw [hp]
  show (n.isPlain && (n.numbered 0).isSome) = true
  rw [hplain, hnum]
  rfl

/-- What an anchored pattern matches, by the first end of what is
anchored. -/
theorem matchLength?_of_anchored {n : Node} {g : Nat}
    (hp : p.node = .anchored n) (hplain : n.isPlain)
    (hnum : n.numbered 0 = some g) {t : Text} {o : Option Nat}
    (ho : (n.ends (.start t)).head? = o.map (Spot.start t).skip)
    (hle : ∀ m, o = some m → m ≤ t.length) :
    p.matchLength? t = .ok o := by
  have horderly := isOrderly_of_anchored hp hplain hnum
  have hends : p.node.ends (.start t) = n.ends (.start t) := by
    rw [hp]
    exact List.flatMap_singleton _ _
  rw [matchLength?_eq horderly, hends, ho]
  cases o with
  | none => rfl
  | some m =>
      have hpos : ((Spot.start t).skip m).pos = m := by
        rw [Spot.pos_skip (hle m rfl)]
        exact Nat.zero_add m
      rw [Option.map_some, Option.map_some, hpos]

theorem lt_of_head?_drop {t : Text} {n : Nat} {c : Char}
    (h : (t.drop n).head? = some c) : n < t.length := by
  rw [List.head?_drop] at h
  exact (List.getElem?_eq_some_iff.1 h).1

/-- A quoted text has at least its two marks. -/
theorem quotedLength?_le {q : Char} {t : Text} {n : Nat}
    (h : quotedLength? q t = some n) : 2 ≤ n ∧ n ≤ t.length := by
  cases t with
  | nil => cases h
  | cons c t =>
      rw [Regex.quotedLength?_cons] at h
      split at h
      · next hc =>
        cases h
        have := lt_of_head?_drop hc.2
        rw [List.length_cons]
        omega
      · cases h

/-- So has a text between slashes. -/
theorem slashedLength?_le {t : Text} {n : Nat}
    (h : slashedLength? t = some n) : 2 ≤ n ∧ n ≤ t.length := by
  cases t with
  | nil => cases h
  | cons c t =>
      rw [Regex.slashedLength?_cons] at h
      split at h
      · next hc =>
        cases h
        have hlt := lt_of_head?_drop hc.2.2
        have hle := (List.takeWhile_sublist isSlashFlag
          (l := t.drop (quotedRun '/' t + 1))).length_le
        rw [List.length_drop] at hle
        rw [List.length_cons]
        omega
      · cases h

/-- The rule for strings takes what the reader for quoted texts takes, with
either mark. -/
theorem matchLength?_strings (hp : p.node = .anchored .strings) (t : Text) :
    p.matchLength? t
      = .ok ((quotedLength? '"' t).or (quotedLength? '\'' t)) := by
  have hends : Node.strings.ends (.start t)
      = ((quotedLength? '"' t).map (Spot.start t).skip).toList
        ++ ((quotedLength? '\'' t).map (Spot.start t).skip).toList := by
    show (Node.quoted '"' 1).ends _ ++ ((Node.quoted '\'' 2).ends _ ++ []) = _
    rw [List.append_nil, Regex.ends_quoted (by decide),
      Regex.ends_quoted (by decide)]
    rfl
  refine matchLength?_of_anchored hp rfl rfl ?_ fun m hm => ?_
  · rw [hends]
    cases quotedLength? '"' t with
    | some n => rfl
    | none =>
        cases quotedLength? '\'' t with
        | some n => rfl
        | none => rfl
  · rcases Option.or_eq_some_iff.1 hm with hm | ⟨-, hm⟩
    · exact (quotedLength?_le hm).2
    · exact (quotedLength?_le hm).2

/-- The rule for texts between slashes takes what their reader takes. -/
theorem matchLength?_slashed (hp : p.node = .anchored .slashed) (t : Text) :
    p.matchLength? t = .ok (slashedLength? t) :=
  matchLength?_of_anchored hp rfl rfl (Regex.head?_ends_slashed _)
    fun _ hm => (slashedLength?_le hm).2

/-- The rule for comments takes the whole line where it begins with the
delimiter. -/
theorem matchLength?_comment {w : Text} (hp : p.node = .anchored (.comment w))
    {t : Text} (ht : '\n' ∉ t) :
    p.matchLength? t
      = .ok (if w.isPrefixOf t then some t.length else none) := by
  have hflat := Regex.isFlat_comment w
  refine matchLength?_of_anchored hp hflat.plain (hflat.numbered 0) ?_
    fun m hm => ?_
  · rw [Regex.head?_ends_comment w ht]
    show (if w.isPrefixOf t then some ((Spot.start t).skip t.length)
      else none) = _
    split <;> rfl
  · split at hm
    · cases hm
      exact Nat.le_refl _
    · cases hm

end Highlight.Pattern
