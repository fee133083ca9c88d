/-
Patterns that end with a word: any of some words up to the edge of a word,
and a run of word characters.

Alternatives are put together in a way of their own: what all words begin
with stands in front, and single characters are gathered in a set. A
search finds the same as in the plain row of words, and it finds it in the
same order (`findsAlike_words`). The ends themselves are not the same: a
set has an end once, however many of its characters are listed.

So of listed words the first one counts that ends where a word has its
edge (`matchLength?_listed`), also where a word that is shorter stands in
front of it in the list. A run of word characters ends behind the last one
there is (`matchLength?_wordRun`). Neither ends between two of them.
-/
import Highlight.Proofs.Regex.Filled
import Mathlib.Data.List.Find

namespace Highlight

open Regex (Category CharSet Spot)

-- ========================================================== vocabulary

/-- A word character of the full alphabet. -/
def Text.isWordChar (c : Char) : Bool := Category.word.mem false c.toNat

/-- Word characters stand on both sides of the place. -/
def Text.InWord (t : Text) (n : Nat) : Prop :=
  (t.take n).getLast?.any isWordChar = true
    ∧ (t.drop n).head?.any isWordChar = true

/-- A word stands in front of the text, and just one of its last character
and the one behind it is a word character. -/
def Text.isLedBy (t w : Text) : Bool :=
  w.isPrefixOf t && (w.getLast?.any isWordChar
    != (t.drop w.length).head?.any isWordChar)

/-- Whatever is looked for is found in both lists or in none, and the same
spot comes first. One of the lists may have it more often. -/
def Regex.FindsAlike (l l' : List Spot) : Prop :=
  ∀ p : Spot → Bool, l.find? p = l'.find? p

/-- What is left behind a run of characters does not begin with another
one. -/
theorem Text.any_head?_dropWhile (q : Char → Bool) (t : Text) :
    (t.dropWhile q).head?.any q = false := by
  have hstop := List.head?_dropWhile_not q t
  cases hhead : (t.dropWhile q).head? with
  | none => rfl
  | some c =>
      rw [hhead] at hstop
      exact hstop

open Text (isWordChar InWord)

namespace Regex

/-- A run of word characters. -/
def Node.wordRun : Node :=
  .span .greedy 1 none (.ofCategory false .word false)

/-- A run of blanks. -/
def Node.blankRun : Node :=
  .span .greedy 1 none (.ofCategory false .space false)

variable {ws : List Text} {s u : Spot}

theorem Fold.ifNeeded_exact (needed : Bool) :
    Fold.exact.ifNeeded needed = .exact := by
  cases needed <;> rfl

-- ============================================================ searches

namespace FindsAlike

variable {l l' : List Spot} {e e' : Spot → List Spot}

/-- A spot may be repeated. -/
theorem repeated (hne : l ≠ []) (h : ∀ v ∈ l, v = u) :
    FindsAlike [u] l := by
  intro p
  rw [List.eq_replicate_of_mem h, List.find?_replicate, List.find?_singleton,
    if_neg fun h => hne (List.length_eq_zero_iff.1 h)]

/-- A spot that several reasons speak for may be taken once. -/
theorem gathered {α : Type} (q : α → Bool) (as : List α) :
    FindsAlike (if as.any q then [u] else [])
      (as.flatMap fun a => if q a then [u] else []) := by
  split
  · next h =>
    obtain ⟨a, ha, hq⟩ := List.any_eq_true.1 h
    refine repeated (List.ne_nil_of_mem (a := u)
      (List.mem_flatMap.2 ⟨a, ha, ?_⟩)) fun v hv => ?_
    · rw [if_pos hq]
      exact List.mem_singleton_self u
    · obtain ⟨b, -, hv⟩ := List.mem_flatMap.1 hv
      split at hv
      · exact List.mem_singleton.1 hv
      · cases hv
  · next h =>
    have hnil : (as.flatMap fun a => if q a then [u] else []) = [] :=
      List.flatMap_eq_nil_iff.2 fun a ha =>
        if_neg fun hq => h (List.any_eq_true.2 ⟨a, ha, hq⟩)
    rw [hnil]
    exact fun _ => rfl

/-- What comes behind each spot may be looked for in another way. -/
theorem flatMap (h : ∀ v ∈ l, FindsAlike (e v) (e' v)) :
    FindsAlike (l.flatMap e) (l.flatMap e') := by
  intro p
  induction l with
  | nil => rfl
  | cons v l ih =>
      rw [List.forall_mem_cons] at h
      rw [List.flatMap_cons, List.flatMap_cons, List.find?_append,
        List.find?_append, h.1, ih h.2]

end FindsAlike

-- ======================================================== alternatives

theorem ends_choice (ns : List Node) (s : Spot) :
    (Node.choice ns).ends s = ns.flatMap (·.ends s) := by
  induction ns with
  | nil => rfl
  | cons n ns ih =>
      show n.ends s ++ (Node.choice ns).ends s = _
      rw [ih, List.flatMap_cons]

/-- Words make up a set if each of them is a single character. -/
theorem exists_chars_of_members {rests : List (List Node)}
    {mss : List (List Member)}
    (hrests : ∀ r ∈ rests, ∃ w : Text, r = w.map Node.char)
    (h : rests.mapM Node.members? = some mss) :
    ∃ cs : Text, rests = cs.map ([Node.char ·])
      ∧ mss = cs.map ([Member.char ·.toNat]) := by
  induction rests generalizing mss with
  | nil =>
      cases h
      exact ⟨[], rfl, rfl⟩
  | cons r rests ih =>
      rw [List.forall_mem_cons] at hrests
      obtain ⟨w, rfl⟩ := hrests.1
      rw [List.mapM_cons] at h
      obtain ⟨ms, hms, h⟩ := Option.bind_eq_some_iff.1 h
      obtain ⟨mss, hrest, h⟩ := Option.bind_eq_some_iff.1 h
      cases h
      obtain ⟨cs, rfl, rfl⟩ := ih hrests.2 hrest
      rcases w with _ | ⟨c, _ | ⟨d, w⟩⟩
      · cases hms
      · cases hms
        exact ⟨c :: cs, rfl, rfl⟩
      · cases hms

theorem mem_gathered (cs : Text) (d : Char) :
    (CharSet.ofList .exact false false
      (cs.map ([Member.char ·.toNat])).flatten.eraseDups).mem d
        = cs.contains d := by
  unfold CharSet.ofList
  rw [Fold.ifNeeded_exact, CharSet.mem_listed_exact, Bool.bne_false,
    Bool.eq_iff_iff, List.any_eq_true, List.contains_iff_mem]
  simp only [List.mem_eraseDups, List.mem_flatten, List.mem_map]
  constructor
  · rintro ⟨m, ⟨_, ⟨c, hc, rfl⟩, hm⟩, hmem⟩
    rw [List.mem_singleton.1 hm] at hmem
    change (d.toNat == c.toNat) = true at hmem
    rw [toNat_beq, beq_iff_eq] at hmem
    exact hmem ▸ hc
  · intro hd
    exact ⟨_, ⟨_, ⟨d, hd, rfl⟩, List.mem_singleton_self _⟩,
      beq_self_eq_true d.toNat⟩

/-- In a set the same is found as in its characters one by one. -/
theorem findsAlike_gathered (cs : Text) (s : Spot) :
    FindsAlike ((Node.one (.ofList .exact false false
        (cs.map ([Member.char ·.toNat])).flatten.eraseDups)).ends s)
      (cs.flatMap fun c => (Node.char c).ends s) := by
  have hset : (Node.one (.ofList .exact false false
        (cs.map ([Member.char ·.toNat])).flatten.eraseDups)).ends s
      = if cs.any (fun c => s.after.head? == some c) then [s.skip 1]
        else [] := by
    unfold Node.ends
    cases hs : s.after with
    | nil =>
        rw [Spot.step?_nil hs, List.head?_nil]
        simp
    | cons d r =>
        rw [Spot.step?_cons hs, mem_gathered, List.head?_cons]
        simp only [Option.some_beq_some, List.any_beq]
        cases cs.contains d <;> rfl
  have hchars : (fun c => (Node.char c).ends s)
      = fun c => if s.after.head? == some c then [s.skip 1] else [] := by
    funext c
    rw [ends_char]
    simp only [beq_iff_eq]
  rw [hset, hchars]
  exact .gathered _ cs

/-- What words share at their front is a word, and so is the rest of each. -/
theorem exists_of_sharedLead {first lead : List Node}
    {others rests : List (List Node)}
    (hchars : ∀ b ∈ first :: others, ∃ w : Text, b = w.map Node.char)
    (h : Node.sharedLead first others = (lead, rests)) :
    ∃ w : Text, lead = w.map Node.char
      ∧ ∀ r ∈ rests, ∃ v : Text, r = v.map Node.char := by
  obtain ⟨hne, hmem⟩ := Node.of_sharedLead h
  have hparts : ∀ r ∈ rests, ∃ u v : Text,
      lead = u.map Node.char ∧ r = v.map Node.char := by
    intro r hr
    obtain ⟨w, hw⟩ := hchars _ (hmem r hr)
    obtain ⟨u, v, -, hu, hv⟩ := List.map_eq_append_iff.1 hw.symm
    exact ⟨u, v, hu.symm, hv.symm⟩
  obtain ⟨r, hr⟩ := List.exists_mem_of_ne_nil rests hne
  obtain ⟨u, -, hu, -⟩ := hparts r hr
  refine ⟨u, hu, fun r hr => ?_⟩
  obtain ⟨-, v, -, hv⟩ := hparts r hr
  exact ⟨v, hv⟩

/-- Characters have one end, so it does not matter whether they stand in
front of all alternatives or in front of each. -/
theorem flatMap_ends_chars (w : Text) (rests : List (List Node)) (s : Spot) :
    (rests.flatMap fun r => (Node.ofList (w.map Node.char ++ r)).ends s)
      = ((Node.word w).ends s).flatMap fun v =>
        rests.flatMap fun r => (Node.ofList r).ends v := by
  have hends : ∀ r ∈ rests, (Node.ofList (w.map Node.char ++ r)).ends s
      = ((Node.word w).ends s).flatMap (Node.ofList r).ends :=
    fun r _ => ends_ofList_append _ r s
  rw [List.flatMap_congr hends, ends_word]
  split
  · simp only [List.flatMap_singleton]
  · simp only [List.flatMap_nil]
    exact List.flatMap_eq_nil_iff.2 fun _ _ => rfl

/-- In what alternatives are put together to, the same is found as in the
alternatives one after the other, if they are words. -/
theorem findsAlike_ofBranches {bs : List (List Node)} (hne : bs ≠ [])
    (hchars : ∀ b ∈ bs, ∃ w : Text, b = w.map Node.char) (s : Spot) :
    FindsAlike ((Node.ofList (Node.ofBranches .exact false bs)).ends s)
      (bs.flatMap fun b => (Node.ofList b).ends s) := by
  unfold Node.ofBranches
  split
  · exact absurd rfl hne
  · next branch =>
    rw [List.flatMap_singleton]
    exact fun _ => rfl
  · next first others _ =>
    rcases hshared : Node.sharedLead first others with ⟨lead, rests⟩
    have heq := Node.sharedLead_eq first others
    rw [hshared] at heq
    obtain ⟨w, rfl, hrests⟩ := exists_of_sharedLead hchars hshared
    rw [← heq, List.flatMap_map, flatMap_ends_chars]
    dsimp only
    split
    · next mss hmss =>
      obtain ⟨cs, rfl, rfl⟩ := exists_chars_of_members hrests hmss
      rw [ends_ofList_append]
      refine FindsAlike.flatMap fun v _ => ?_
      rw [List.flatMap_map]
      exact findsAlike_gathered cs v
    · rw [ends_ofList_append]
      refine FindsAlike.flatMap fun v _ => ?_
      show FindsAlike ((Node.choice (rests.map Node.ofList)).ends v) _
      rw [ends_choice, List.flatMap_map]
      exact fun _ => rfl

/-- In words as alternatives the same is found as in one after the other. -/
theorem findsAlike_words (hne : ws ≠ []) (s : Spot) :
    FindsAlike ((Node.words ws).ends s)
      (ws.flatMap fun w => (Node.word w).ends s) := by
  have hends : (ws.flatMap fun w => (Node.word w).ends s)
      = (ws.map (·.map Node.char)).flatMap fun b =>
        (Node.ofList b).ends s := by
    rw [List.flatMap_map]
    rfl
  rw [hends]
  refine findsAlike_ofBranches (fun h => hne (List.map_eq_nil_iff.1 h)) ?_ s
  exact List.forall_mem_map.2 fun w _ => ⟨w, rfl⟩

theorem flatMap_ends_assertion (a : Assertion) (l : List Spot) :
    l.flatMap (Node.assertion a).ends = l.filter (·.holds a) := by
  induction l with
  | nil => rfl
  | cons s l ih =>
      rw [List.flatMap_cons, List.filter_cons, ih]
      show (if s.holds a then [s] else []) ++ _ = _
      cases s.holds a <;> rfl

/-- The first of the words that stand in front of the text and pass. -/
theorem find?_ends_words (hne : ws ≠ []) (s : Spot) (p : Spot → Bool) :
    ((Node.words ws).ends s).find? p
      = (ws.find? fun w => w.isPrefixOf s.after
        && p (s.skip w.length)).map (s.skip ·.length) := by
  rw [findsAlike_words hne s p]
  clear hne
  induction ws with
  | nil => rfl
  | cons w ws ih =>
      rw [List.flatMap_cons, List.find?_append, ih, ends_word]
      cases hw : w.isPrefixOf s.after with
      | false =>
          rw [List.find?_cons_of_neg (by simp [hw])]
          rfl
      | true =>
          cases hp : p (s.skip w.length) with
          | false =>
              rw [List.find?_cons_of_neg (l := ws) (by simp [hp])]
              simp [hp]
          | true =>
              rw [List.find?_cons_of_pos (l := ws) (by simp [hw, hp])]
              simp [hp]

-- =========================================================== word edges

/-- A word that is passed has its edge where just one of its last character
and the next one is a word character. In the empty text there is none. -/
theorem holds_boundary_skip {t w : Text} (h : w <+: t) :
    ((Spot.start t).skip w.length).holds (.boundary false)
      = (w.getLast?.any isWordChar
        != (t.drop w.length).head?.any isWordChar) := by
  have htake : t.take w.length = w := (List.prefix_iff_eq_take.1 h).symm
  have hbefore : ((Spot.start t).skip w.length).before = w.reverse := by
    show (t.take w.length).reverse ++ [] = _
    rw [htake, List.append_nil]
  have hleft : Spot.holds.left ((Spot.start t).skip w.length) false
      = w.getLast?.any isWordChar := by
    unfold Spot.holds.left
    rw [hbefore, List.head?_reverse]
    rfl
  have hblank : Spot.holds.blank ((Spot.start t).skip w.length)
      = (w.isEmpty && (t.drop w.length).isEmpty) := by
    unfold Spot.holds.blank
    rw [hbefore, List.isEmpty_reverse]
    rfl
  show (!Spot.holds.blank _ && (Spot.holds.left _ false != _)) = _
  rw [hblank, hleft]
  show (_ && (_ != (t.drop w.length).head?.any isWordChar)) = _
  cases hw : w with
  | cons c w => rfl
  | nil =>
      cases t with
      | nil => rfl
      | cons c t => rfl

/-- A greedy span of at least one character takes all characters of its
set. -/
theorem Spot.head?_spanEnds_one (set : CharSet) (s : Spot) :
    (spanEnds .greedy 1 none set s).head?
      = if s.after.head?.any set.mem then
          some (s.skip (s.after.takeWhile (set.mem ·)).length)
        else none := by
  have hlast := getLast?_reach_left set s
  show (((s.reach set s.left).drop 1).reverse).head? = _
  rw [List.head?_reverse, List.getLast?_drop, hlast]
  rw [s.left_eq] at hlast ⊢
  cases hs : s.after with
  | nil => rfl
  | cons c r =>
      rw [List.length_cons, reach, step?_cons hs, List.head?_cons,
        Option.any_some]
      cases hc : set.mem c with
      | true =>
          have hne : (s.skip 1).reach set r.length ≠ [] :=
            reach_ne_nil r.length
          have hpos := List.length_pos_iff.2 hne
          rw [if_pos rfl, if_pos rfl, if_neg]
          rw [List.length_cons]
          omega
      | false => rfl

end Regex

namespace Pattern

variable {p : Pattern} {ws : List Text} {t : Text} {n : Nat}

/-- Listed words take the first of them that stands in front of the text
and ends at the edge of a word. -/
theorem matchLength?_listed (hne : ws ≠ [])
    (hp : p.node = .anchored (.listed ws)) (t : Text) :
    p.matchLength? t = .ok ((ws.find? t.isLedBy).map List.length) := by
  refine matchLength?_of_anchored hp (Regex.Node.isPlain_listed ws)
    (Regex.Node.numbered_listed ws) ?_ fun m hm => ?_
  · have hends : (Regex.Node.listed ws).ends (.start t)
        = ((Regex.Node.words ws).ends (.start t)).filter
          (·.holds (.boundary false)) :=
      Regex.flatMap_ends_assertion _ _
    have hled : ∀ w ∈ ws, (w.isPrefixOf (Spot.start t).after
        && ((Spot.start t).skip w.length).holds (.boundary false))
          = t.isLedBy w := by
      intro w _
      unfold Text.isLedBy
      cases hw : w.isPrefixOf t with
      | false => simp [show (Spot.start t).after = t from rfl, hw]
      | true =>
          rw [Regex.holds_boundary_skip (List.isPrefixOf_iff_prefix.1 hw)]
          simp [show (Spot.start t).after = t from rfl, hw]
    rw [hends, List.head?_filter, Regex.find?_ends_words hne,
      List.find?_congr hled, Option.map_map]
    rfl
  · obtain ⟨w, hw, rfl⟩ := Option.map_eq_some_iff.1 hm
    have hpre := (Bool.and_eq_true _ _ ▸ List.find?_some hw).1
    exact (List.isPrefixOf_iff_prefix.1 hpre).length_le

/-- A match of listed words is one of them, up to the edge of a word. -/
theorem exists_of_matchLength?_listed (hne : ws ≠ [])
    (hp : p.node = .anchored (.listed ws))
    (h : p.matchLength? t = .ok (some n)) :
    (∃ w ∈ ws, w <+: t ∧ w.length = n) ∧ ¬ InWord t n := by
  rw [matchLength?_listed hne hp] at h
  obtain ⟨w, hw, rfl⟩ := Option.map_eq_some_iff.1 (Except.ok.inj h)
  obtain ⟨hpre, hedge⟩ := Bool.and_eq_true _ _ ▸ List.find?_some hw
  have hpre := List.isPrefixOf_iff_prefix.1 hpre
  refine ⟨⟨w, List.mem_of_find?_eq_some hw, hpre, rfl⟩, ?_⟩
  rintro ⟨hleft, hright⟩
  rw [← List.prefix_iff_eq_take.1 hpre] at hleft
  rw [hleft, hright] at hedge
  cases hedge

/-- A run of characters of a set takes all of them. -/
theorem matchLength?_run {set : CharSet}
    (hp : p.node = .anchored (.span .greedy 1 none set)) (t : Text) :
    p.matchLength? t
      = .ok (if t.head?.any set.mem then
          some (t.takeWhile (set.mem ·)).length
        else none) := by
  refine matchLength?_of_anchored hp rfl rfl ?_ fun m hm => ?_
  · show (Regex.spanEnds .greedy 1 none _ _).head? = _
    rw [Spot.head?_spanEnds_one]
    show (if t.head?.any set.mem then _ else none) = _
    split
    · rfl
    · rfl
  · split at hm
    · cases hm
      exact (List.takeWhile_prefix _).length_le
    · cases hm

theorem matchLength?_wordRun (hp : p.node = .anchored .wordRun) (t : Text) :
    p.matchLength? t
      = .ok (if t.head?.any isWordChar then
          some (t.takeWhile isWordChar).length
        else none) := by
  have hset : (CharSet.ofCategory false .word false).mem = isWordChar := by
    funext c
    show ([Regex.Member.category .word false].any _ != false) = _
    simp [isWordChar, Regex.Member.mem]
  rw [matchLength?_run hp, hset]

/-- Behind a run of word characters comes none. -/
theorem not_inWord_takeWhile (t : Text) :
    ¬ InWord t (t.takeWhile isWordChar).length := by
  have hdrop : (t.takeWhile isWordChar ++ t.dropWhile isWordChar).drop
      (t.takeWhile isWordChar).length = t.dropWhile isWordChar :=
    List.drop_left
  rw [List.takeWhile_append_dropWhile] at hdrop
  rintro ⟨-, hright⟩
  rw [hdrop, Text.any_head?_dropWhile] at hright
  cases hright

end Pattern

end Highlight
