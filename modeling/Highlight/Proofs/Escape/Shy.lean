/-
Patterns that keep away from special characters.

If no set of a pattern holds a special character, the pattern stops in
front of one, and in front of the entity in the escaped text, and cannot
tell the two apart: words end at both. So it matches the same in both
texts (`Pattern.escapable_of_isShy`).

What follows the semicolon of an entity does not matter either, as no set
of the pattern holds that.
-/
import Highlight.Proofs.Escape.Text
import Highlight.Proofs.Regex.Lockstep

namespace Highlight

open Regex (Spot CharSet Assertion Likeness Alike Category)
open Html (entityNames)

-- ========================================================== vocabulary

/-- The set holds no special character and no semicolon. -/
def Regex.CharSet.isShy (set : CharSet) : Bool :=
  Html.specials.all (!set.mem ·) && !set.mem ';'

namespace Pattern

/-- A pattern that matches the same before and after escaping, on the rest
of a line: it takes the same part, none if that begins with a special
character, and of an entity it sees no more than what is left of it. It
never takes the empty text. -/
structure Escapable (p : Pattern) : Prop where
  escape_eq : ∀ t, '\n' ∉ t → ∃ o, p.matchLength? t = .ok o
    ∧ p.matchLength? (Html.escape t)
      = .ok (o.map fun n => (Html.escape (t.take n)).length)
  ne_zero : ∀ t, '\n' ∉ t → p.matchLength? t ≠ .ok (some 0)
  special : ∀ c ∈ Html.specials, ∀ t, '\n' ∉ t →
    p.matchLength? (c :: t) = .ok none
  entity : ∀ w ∈ [] :: entityNames, ∀ t, '\n' ∉ t →
    p.matchLength? (w ++ ';' :: t) = p.matchLength? (w ++ [';'])

/-- An orderly pattern that takes some text, but no special character. -/
def isShy (p : Pattern) : Bool :=
  p.isOrderly && 0 < p.node.width.least
    && p.node.all (·.isShy) fun _ => true

end Pattern

-- ============================================================== likeness

namespace Regex

/-- A shy set has no character that is escaped. -/
theorem mem_of_isShy {set : CharSet} (h : set.isShy) {c : Char}
    (hc : c ∈ Html.specials) : set.mem c = false := by
  obtain ⟨hs, -⟩ := Bool.and_eq_true _ _ ▸ h
  have := List.all_eq_true.1 hs c hc
  rwa [Bool.not_eq_true'] at this

/-- Nor has it the semicolon that ends an entity. -/
theorem semicolon_of_isShy {set : CharSet} (h : set.isShy) :
    set.mem ';' = false := by
  obtain ⟨-, hs⟩ := Bool.and_eq_true _ _ ▸ h
  rwa [Bool.not_eq_true'] at hs

/-- Assertions ask for the text before, for the end, and for the character
that follows. -/
theorem Spot.holds_congr {s s' : Spot} (hb : s.before = s'.before)
    (he : s.after.isEmpty = s'.after.isEmpty)
    (hl : (s.after == ['\n']) = (s'.after == ['\n']))
    (hf : s.after.head?.all (· == '\n') = s'.after.head?.all (· == '\n'))
    (hw : ∀ ascii, holds.right s ascii = holds.right s' ascii)
    (a : Assertion) : s.holds a = s'.holds a := by
  have hblank : holds.blank s = holds.blank s' := by
    unfold holds.blank
    rw [hb, he]
  have hleft : ∀ ascii, holds.left s ascii = holds.left s' ascii := by
    intro ascii
    unfold holds.left
    rw [hb]
  cases a with
  | start => exact congrArg List.isEmpty hb
  | lineStart =>
      show s.before.head?.all _ = s'.before.head?.all _
      rw [hb]
  | finish => exact he
  | lastLineEnd =>
      show (s.after.isEmpty || s.after == ['\n'])
        = (s'.after.isEmpty || s'.after == ['\n'])
      rw [he, hl]
  | lineEnd => exact hf
  | boundary ascii =>
      show (!holds.blank s && holds.left s ascii != holds.right s ascii)
        = (!holds.blank s' && holds.left s' ascii != holds.right s' ascii)
      rw [hblank, hleft, hw]
  | noBoundary ascii =>
      show (!holds.blank s && holds.left s ascii == holds.right s ascii)
        = (!holds.blank s' && holds.left s' ascii == holds.right s' ascii)
      rw [hblank, hleft, hw]

-- ------------------------------------------------------------- escaping

/-- A spot of the text and the one of the escaped text behind the same
characters, none of them special. -/
def Aligned (s s' : Spot) : Prop :=
  s.before = s'.before ∧ s'.after = Html.escape s.after

/-- The special characters are no word characters. -/
theorem word_special (ascii : Bool) {c : Char} (hc : c ∈ Html.specials) :
    Category.word.mem ascii c.toNat = false := by
  rcases Html.special_cases hc with rfl | rfl | rfl
  all_goals
    cases ascii <;> decide +kernel

/-- What escaping does to the character that comes next. -/
theorem head?_escape (t : Text) :
    (Html.escape t).head?
      = t.head?.map fun c => if c ∈ Html.specials then '&' else c := by
  cases t with
  | nil => rfl
  | cons c t =>
      rw [Html.escape_cons, List.head?_cons, Option.map_some]
      split
      · next hc =>
        obtain ⟨w, -, he⟩ := Html.escapeChar_of_mem hc
        rw [he]
        rfl
      · next hc =>
        rw [Html.escapeChar_of_not_mem hc]
        rfl

/-- Only a line feed is escaped to a line feed. -/
theorem escape_eq_lineFeed_iff (t : Text) :
    Html.escape t = ['\n'] ↔ t = ['\n'] := by
  constructor
  · intro h
    cases t with
    | nil => cases h
    | cons c t =>
        obtain ⟨d, w, he, hd, -⟩ := Html.escapeChar_eq_cons c
        rw [Html.escape_cons, he] at h
        obtain ⟨rfl, hnil⟩ := List.cons.inj h
        obtain ⟨-, ht⟩ := List.append_eq_nil_iff.1 hnil
        rcases hd with rfl | hd
        · rw [Html.escape_eq_nil ht]
        · cases hd
  · rintro rfl
    rfl

/-- No assertion tells aligned spots apart. -/
theorem aligned_holds {s s' : Spot} (h : Aligned s s') (a : Assertion) :
    s.holds a = s'.holds a := by
  obtain ⟨hb, ha⟩ := h
  have hhead := head?_escape s.after
  rw [← ha] at hhead
  refine Spot.holds_congr hb ?_ ?_ ?_ (fun ascii => ?_) a
  · rw [Bool.eq_iff_iff, List.isEmpty_iff, List.isEmpty_iff, ha]
    exact ⟨fun h => by rw [h]; rfl, Html.escape_eq_nil⟩
  · rw [Bool.eq_iff_iff, beq_iff_eq, beq_iff_eq, ha]
    exact (escape_eq_lineFeed_iff s.after).symm
  · rw [hhead]
    cases s.after.head? with
    | none => rfl
    | some c =>
        rw [Option.map_some, Option.all_some, Option.all_some]
        split
        · next hc =>
          rcases Html.special_cases hc with rfl | rfl | rfl <;> rfl
        · rfl
  · unfold Spot.holds.right
    rw [hhead]
    cases s.after.head? with
    | none => rfl
    | some c =>
        rw [Option.map_some, Option.any_some, Option.any_some]
        split
        · next hc =>
          rw [word_special ascii hc, word_special ascii (by decide)]
        · rfl

/-- A shy set takes the same characters at aligned spots. -/
theorem aligned_step {set : CharSet} (hset : set.isShy) {s s' : Spot}
    (h : Aligned s s') : Option.Rel Aligned (s.step? set) (s'.step? set) := by
  obtain ⟨hb, ha⟩ := h
  cases hs : s.after with
  | nil =>
      rw [hs] at ha
      rw [Spot.step?_nil hs, Spot.step?_nil ha]
      exact .none
  | cons c r =>
      rw [hs, Html.escape_cons] at ha
      by_cases hc : c ∈ Html.specials
      · obtain ⟨w, -, he⟩ := Html.escapeChar_of_mem hc
        rw [he] at ha
        rw [Spot.step?_cons hs, Spot.step?_cons ha, mem_of_isShy hset hc,
          mem_of_isShy hset (by decide)]
        exact .none
      · rw [Html.escapeChar_of_not_mem hc] at ha
        rw [Spot.step?_cons hs, Spot.step?_cons ha]
        split
        · refine .some ⟨?_, ?_⟩
          · show (s.after.take 1).reverse ++ s.before
              = (s'.after.take 1).reverse ++ s'.before
            rw [hs, ha, hb]
            rfl
          · show s'.after.drop 1 = Html.escape (s.after.drop 1)
            rw [hs, ha]
            rfl
        · exact .none

/-- So escaped and plain text are alike for shy patterns. -/
theorem likeness_aligned :
    Likeness (·.isShy) (fun _ => true) Aligned where
  pos_eq h := by rw [Spot.pos_eq, Spot.pos_eq, h.1]
  step hset _ _ h := aligned_step hset h
  holds _ _ _ h := aligned_holds h _

-- ------------------------------------------------------------ semicolons

/-- Spots with the same text up to a semicolon. -/
def SameToSemicolon (r : Text) (s s' : Spot) : Prop :=
  s.before = s'.before ∧ ∃ w, s.after = w ++ ';' :: r ∧ s'.after = w ++ [';']

variable {r : Text}

/-- No assertion looks beyond the semicolon. -/
theorem sameToSemicolon_holds {s s' : Spot} (h : SameToSemicolon r s s')
    (a : Assertion) : s.holds a = s'.holds a := by
  obtain ⟨hb, w, ha, ha'⟩ := h
  have hhead : s.after.head? = s'.after.head? := by
    rw [ha, ha']
    cases w <;> rfl
  refine Spot.holds_congr hb ?_ ?_ ?_ (fun ascii => ?_) a
  · rw [ha, ha']
    cases w <;> rfl
  · have hne : ∀ v : Text, w ++ ';' :: v ≠ ['\n'] := by
      intro v h
      cases w with
      | nil => cases h
      | cons c w =>
          obtain ⟨-, hnil⟩ := List.cons.inj h
          cases w <;> cases hnil
    rw [ha, ha', beq_eq_false_iff_ne.2 (hne r), beq_eq_false_iff_ne.2 (hne [])]
  · rw [hhead]
  · unfold Spot.holds.right
    rw [hhead]

/-- Nor does a shy set. -/
theorem sameToSemicolon_step {set : CharSet} (hset : set.isShy)
    {s s' : Spot} (h : SameToSemicolon r s s') :
    Option.Rel (SameToSemicolon r) (s.step? set) (s'.step? set) := by
  obtain ⟨hb, w, ha, ha'⟩ := h
  cases w with
  | nil =>
      rw [Spot.step?_cons ha, Spot.step?_cons ha', semicolon_of_isShy hset]
      exact .none
  | cons c w =>
      rw [Spot.step?_cons ha, Spot.step?_cons ha']
      split
      · refine .some ⟨?_, w, ?_, ?_⟩
        · show (s.after.take 1).reverse ++ s.before
            = (s'.after.take 1).reverse ++ s'.before
          rw [ha, ha', hb]
          rfl
        · show s.after.drop 1 = _
          rw [ha]
          rfl
        · show s'.after.drop 1 = _
          rw [ha']
          rfl
      · exact .none

theorem likeness_sameToSemicolon :
    Likeness (·.isShy) (fun _ => true) (SameToSemicolon r) where
  pos_eq h := by rw [Spot.pos_eq, Spot.pos_eq, h.1]
  step hset _ _ h := sameToSemicolon_step hset h
  holds _ _ _ h := sameToSemicolon_holds h _

/-- Related first ends lie at the same place. -/
theorem head?_pos_of_alike {R : Spot → Spot → Prop} {e : Spot → List Spot}
    (hpos : ∀ {s s'}, R s s' → s.pos = s'.pos) (h : Alike R e e)
    {s s' : Spot} (hs : R s s') :
    (e s).head?.map Spot.pos = (e s').head?.map Spot.pos := by
  cases hl : e s with
  | nil =>
      have hnil := h s s' hs
      rw [hl, List.forall₂_nil_left_iff] at hnil
      rw [hnil]
  | cons u l =>
      have hcons := h s s' hs
      rw [hl] at hcons
      obtain ⟨u', l', hu, -, heq⟩ := List.forall₂_cons_left_iff.1 hcons
      rw [heq]
      exact congrArg some (hpos hu)

end Regex

-- ============================================================= patterns

namespace Pattern

open Regex (Aligned SameToSemicolon)

variable {p : Pattern}

/-- What is matched before a relation of spots is matched behind it. -/
theorem matchLength?_of_likeness {R : Spot → Spot → Prop} {t t' : Text}
    (hp : p.isShy) (h : Likeness (·.isShy) (fun _ => true) R)
    (hs : R (.start t) (.start t')) :
    p.matchLength? t = p.matchLength? t' := by
  obtain ⟨hp, hset⟩ := Bool.and_eq_true _ _ ▸ hp
  obtain ⟨horderly, -⟩ := Bool.and_eq_true _ _ ▸ hp
  obtain ⟨hplain, -⟩ := Bool.and_eq_true _ _ ▸ horderly
  have halike := Regex.Node.ends_alike h hplain hset
  rw [matchLength?_eq horderly, matchLength?_eq horderly,
    Regex.head?_pos_of_alike h.pos_eq halike hs]

/-- What a shy pattern takes holds no special character. -/
theorem not_special_of_isShy (hp : p.isShy) {t : Text} {n : Nat}
    (h : p.matchLength? t = .ok (some n)) :
    Html.escape (t.take n) = t.take n := by
  have hlike := Regex.likeness_aligned
  obtain ⟨hp, hset⟩ := Bool.and_eq_true _ _ ▸ hp
  obtain ⟨horderly, -⟩ := Bool.and_eq_true _ _ ▸ hp
  obtain ⟨hplain, -⟩ := Bool.and_eq_true _ _ ▸ horderly
  rw [matchLength?_eq horderly] at h
  obtain ⟨u, hu, rfl⟩ := Option.map_eq_some_iff.1 (Except.ok.inj h)
  have halike := Regex.Node.ends_alike hlike hplain hset (.start t)
    (.start (Html.escape t)) ⟨rfl, rfl⟩
  obtain ⟨l, hl⟩ := List.head?_eq_some_iff.1 hu
  rw [hl] at halike
  obtain ⟨u', l', ⟨hb, ha⟩, -, hl'⟩ :=
    List.forall₂_cons_left_iff.1 halike
  obtain ⟨⟨w, hw, hwb⟩, -⟩ := Regex.Node.forward_ends hplain _ u
    (by rw [hl]; exact List.mem_cons_self)
  obtain ⟨⟨w', hw', hwb'⟩, -⟩ := Regex.Node.forward_ends hplain _ u'
    (by rw [hl']; exact List.mem_cons_self)
  have ht : t = w ++ u.after := hw
  have ht' : Html.escape t = w' ++ u'.after := hw'
  have hww : w = w' := by
    rw [hb, hwb'] at hwb
    have hrev : w'.reverse = w.reverse := by
      have hnil : (Spot.start t).before = [] := rfl
      have hnil' : (Spot.start (Html.escape t)).before = [] := rfl
      rw [hnil, hnil', List.append_nil, List.append_nil] at hwb
      exact hwb
    exact (List.reverse_inj.1 hrev).symm
  have hlen : u.pos = w.length := by
    rw [u.pos_eq, hwb, List.length_append, List.length_reverse]
    rfl
  have htake : t.take u.pos = w := by
    rw [hlen, ht, List.take_left]
  rw [htake]
  rw [ht, Html.escape_append, ha, ← hww] at ht'
  exact List.append_cancel_right ht'

/-- A shy pattern cannot tell a text from its escaped form. -/
theorem escapable_of_isShy (hp : p.isShy) : p.Escapable := by
  have hparts := hp
  obtain ⟨hparts, -⟩ := Bool.and_eq_true _ _ ▸ hparts
  obtain ⟨horderly, hwidth⟩ := Bool.and_eq_true _ _ ▸ hparts
  have hescape : ∀ t, p.matchLength? t = p.matchLength? (Html.escape t) :=
    fun t => matchLength?_of_likeness hp Regex.likeness_aligned ⟨rfl, rfl⟩
  have hzero := ne_zero_of_width horderly (of_decide_eq_true hwidth)
  -- What is matched has no character that is escaped.
  have hshort : ∀ {t n}, p.matchLength? t = .ok (some n) →
      Html.escape (t.take n) = t.take n ∧ n ≤ t.length :=
    fun h => ⟨not_special_of_isShy hp h, matchLength?_le h⟩
  constructor
  case escape_eq =>
    intro t _
    refine ⟨_, matchLength?_eq horderly t, ?_⟩
    rw [← hescape, matchLength?_eq horderly]
    cases ho : (p.node.ends (.start t)).head?.map Spot.pos with
    | none => rfl
    | some n =>
        obtain ⟨htake, hle⟩ := hshort (t := t) (n := n) (by
          rw [matchLength?_eq horderly, ho])
        rw [Option.map_some, htake, List.length_take_of_le hle]
  case ne_zero => exact fun t _ => hzero t
  case special =>
    intro c hc t _
    cases ho : (p.node.ends (.start (c :: t))).head?.map Spot.pos with
    | none => rw [matchLength?_eq horderly, ho]
    | some n =>
        have hmatch : p.matchLength? (c :: t) = .ok (some n) := by
          rw [matchLength?_eq horderly, ho]
        obtain ⟨htake, -⟩ := hshort hmatch
        cases n with
        | zero => exact absurd hmatch (hzero _)
        | succ n =>
            rw [List.take_succ_cons] at htake
            exact absurd hc (Html.not_special_of_escape_eq htake c
              List.mem_cons_self)
  case entity =>
    intro w hw t _
    exact matchLength?_of_likeness hp
      (Regex.likeness_sameToSemicolon (r := t)) ⟨rfl, w, rfl, rfl⟩

end Pattern

end Highlight
