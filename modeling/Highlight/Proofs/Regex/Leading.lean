/-
What a pattern begins with: groups of flags, comments and blank space, read
on their own and in the anchored pattern.

A state in which nothing has been read is told by its flags alone
(`State.fresh`), and a step leaves such a state only by reading something,
after which the flags of the pattern are settled
(`State.fresh_or_isRooted`). The anchored pattern is compiled with the
final flags and has its anchor behind the groups of flags that its text
begins with. These groups turn on nothing new there
(`State.exists_preamble`). What else may come before the pattern proper
leaves no trace in the group behind the anchor, and flags turned on there
are refused (`State.blank_step`). So that group ends with what the pattern
on its own has become, or the pattern shows what keeps it from that
(`State.read_enclosed`).
-/
import Highlight.Proofs.Regex.Inside
import Highlight.Proofs.Regex.Step

namespace Highlight.Regex

open Pattern (afterFlagGroup? afterFlagGroups)

-- ========================================================== vocabulary

/-- Nothing has been read. -/
def State.IsBlank (s : State) : Prop :=
  s.outer = [] ∧ s.scope.isFresh = true

/-- The anchor for the given flags. -/
def Flags.anchor (fs : Flags) : Assertion :=
  if fs.multiLine then .lineStart else .start

/-- The scope of the whole pattern behind an anchor. -/
def Scope.anchored (fs : Flags) : Scope :=
  (State.fresh fs).scope.add (.assertion fs.anchor)

/-- The state at the beginning of the group behind an anchor. -/
def State.enclosed (fs : Flags) (opened : Nat) : State where
  scope := { kind := .plain false, opened, flags := fs }
  outer := [.anchored fs]

/-- The group has passed over the same text, and nothing was read. -/
structure Skips (t : State) (v w : State × Text) : Prop where
  state : w.1 = t
  left : w.2 = v.2 ++ [')']
  settled : v.2 ≠ ['\\']

/-- A text begins with groups of flags, which do nothing but turn flags on,
and nothing where these are in force; `b` is what comes behind them. -/
structure State.Preamble (fs : Flags) (t : Text) (v : State × Text)
    (w : Text) (gs : Flags) (b : Text) : Prop where
  split : t = w ++ b
  settled : b ≠ ['\\']
  le : fs.Le gs
  rest : (fresh gs).read b = .ok v
  again : ∀ hs r, gs.Le hs → r ≠ ['\\'] →
    w ++ r ≠ ['\\'] ∧ (fresh hs).read (w ++ r) = (fresh hs).read r
  passes : ∀ s r, r.length ≤ b.length →
    ((fresh fs).Passes t s r ↔ (fresh gs).Passes b s r)

variable {fs gs on : Flags} {s s' : State} {r r' : Text}

-- =============================================================== flags

namespace Flags

/-- Flags that are there already add nothing. -/
theorem union_eq_of_le (h : on.Le fs) : fs.union on = fs := by
  have hcomm : fs.union on = on.union fs := by
    simp only [union, Bool.or_comm]
  rw [hcomm]
  exact h

/-- A group that changes no flags has those around it. -/
theorem within_none (fs : Flags) : fs.within .none .none = fs := by
  simp [within, meets, union, minus, none]

/-- The final flags are those that were turned on, but for the choice of
the alphabet. -/
theorem same_of_settle (h : fs.settle = .ok gs) : fs.Same gs := by
  unfold settle at h
  split at h
  · cases h
  · split at h
    · cases h
      rfl
    · split at h
      · cases h
      · cases h
        rfl

/-- Settling turns flags on, but never off. -/
theorem le_of_settle (h : fs.settle = .ok gs) : fs.Le gs := by
  unfold settle at h
  split at h
  · cases h
  · split at h
    · cases h
      simp [Le, union]
    · split at h
      · cases h
      · cases h
        exact le_refl fs

/-- Final flags stay as they are. -/
theorem settle_of_settle (h : fs.settle = .ok gs) : gs.settle = .ok gs := by
  unfold settle at h
  split at h
  · cases h
  · next hlocale =>
    split at h
    · next hascii =>
      cases h
      unfold settle
      rw [if_neg hlocale, if_pos hascii]
    · next hascii =>
      split at h
      · cases h
      · next hunicode =>
        cases h
        unfold settle
        rw [if_neg hlocale, if_neg hascii, if_neg hunicode]

end Flags

namespace State

-- ============================================= leaving the blank state

/-- An item ends the blank stretch. -/
theorem not_isBlank_add (s : State) (i : Item) : ¬ (s.add i).IsBlank := by
  rintro ⟨-, h⟩
  rw [show (s.add i).scope.isFresh = false from Bool.and_false _] at h
  cases h

/-- A step from the blank state either stays blank or settles the flags of
the pattern. -/
theorem fresh_or_isRooted (h : Becomes (fresh fs) s') :
    (∃ gs, s' = fresh gs) ∨ s'.IsRooted fs := by
  cases h with
  | stay => exact Or.inl ⟨fs, rfl⟩
  | add => exact Or.inr ⟨rfl, rfl, fun _ => rfl⟩
  | again h => cases h
  | part => exact Or.inr ⟨rfl, rfl, fun _ => rfl⟩
  | close => exact Or.inl ⟨fs, rfl⟩
  | push => exact Or.inr ⟨rfl, rfl, nofun⟩
  | flags => exact Or.inl ⟨_, rfl⟩

/-- So does an escape. -/
theorem addEscaped_not_isBlank (e : Escaped) (o p : Nat) :
    Yields (s.addEscaped e o p) (¬ ·.IsBlank) := by
  unfold addEscaped
  dsimp only
  split
  · exact .ok (not_isBlank_add _ _)
  · exact .ok (not_isBlank_add _ _)
  · exact .ok (not_isBlank_add _ _)
  · split
    · exact .refuse
    · split
      · exact .refuse
      · exact yields_of_check (.ok (not_isBlank_add _ _))

/-- So does a group. -/
theorem push_not_isBlank (kind : ScopeKind) (o : Nat) (fs : Flags) :
    Yields (s.push kind o fs) (¬ ·.IsBlank) := by
  unfold push
  split
  · exact .error
  · exact .ok fun h => nomatch h.1

/-- Only comments and flags open nothing. -/
theorem opened_not_isBlank {o : Opening} (hcomment : o ≠ .comment)
    (hflags : ∀ on, o ≠ .flags on) (start place : Nat) :
    Yields (s.opened o start place) (¬ ·.IsBlank) := by
  unfold opened
  dsimp only
  split
  · exact Yields.bind (P := fun _ => True) (fun _ _ => trivial)
      fun _ _ => push_not_isBlank _ _ _
  · exact push_not_isBlank _ _ _
  · exact push_not_isBlank _ _ _
  · exact push_not_isBlank _ _ _
  · exact Yields.bind (P := fun _ => True) (fun _ _ => trivial)
      fun _ _ => yields_of_check (push_not_isBlank _ _ _)
  · unfold addReference
    dsimp only
    split
    · exact .refuse
    · split
      · exact .refuse
      · exact yields_of_check (.ok (not_isBlank_add _ _))
  · exact absurd rfl hcomment
  · exact absurd rfl (hflags _)

/-- So does a repetition. -/
theorem addRepeat_not_isBlank (sign : Char) (r : Text) :
    Yields (s.addRepeat sign r) (¬ ·.1.IsBlank) := by
  refine Yields.bind (P := fun _ => True) (fun _ _ => trivial) fun q _ => ?_
  split
  · exact .ok (not_isBlank_add _ _)
  · refine Yields.bind (P := fun _ => True) (fun _ _ => trivial)
      fun _ _ => ?_
    refine Yields.bind (P := fun _ => True) (fun _ _ => trivial)
      fun _ _ => .ok ?_
    rintro ⟨-, h⟩
    rw [Scope.isFresh, List.isEmpty_cons, Bool.and_false] at h
    cases h

/-- A character other than a parenthesis is read into the pattern. -/
theorem stepPlain_not_isBlank {c : Char} (hopen : c ≠ '(') (hclose : c ≠ ')')
    (o : Nat) (r : Text) :
    Yields ((fresh fs).stepPlain c o r) (¬ ·.1.IsBlank) := by
  unfold stepPlain
  dsimp only
  split
  · refine .ok fun h => ?_
    cases h.2
  · exact absurd rfl hclose
  · exact Yields.bind (P := fun _ => True) (fun _ _ => trivial)
      fun _ _ => .ok (not_isBlank_add _ _)
  · exact absurd rfl hopen
  · exact addRepeat_not_isBlank _ r
  · exact addRepeat_not_isBlank _ r
  · exact addRepeat_not_isBlank _ r
  · exact addRepeat_not_isBlank _ r
  · exact .ok (not_isBlank_add _ _)
  · exact .ok (not_isBlank_add _ _)
  · exact .ok (not_isBlank_add _ _)
  · exact .ok (not_isBlank_add _ _)

-- =========================================== blank steps in the group

variable {t : State}

/-- Without anything read there is nothing to show. -/
theorem skips_of_not {m : Except Refusal (State × Text)}
    {P : State × Text → Prop} (h : Yields m (¬ ·.1.IsBlank)) :
    Yields m fun v => v.1.IsBlank → P v :=
  fun v hv hblank => absurd hblank (h v hv)

/-- A parenthesis that opens nothing is a comment; flags of the pattern
are refused in the group. -/
theorem skips_opening (ht : t.outer ≠ []) (hr : r ≠ ['\\']) :
    Yields ((fresh fs).stepPlain '(' (r.length + 1) r)
      fun v => v.1.IsBlank → Fares (Skips t) (fresh fs) ('(' :: r) v
        (t.stepPlain '(' (r.length + 2) (r ++ [')'])) := by
  refine stepOpening_cases (P := fun v x => v.1.IsBlank →
    Fares (Skips t) (fresh fs) ('(' :: r) v x) ht hr
    (fun _ hflags _ => .late hflags) fun hflags o r₁ ho hr₁ => ?_
  by_cases hcomment : o = .comment
  · subst hcomment
    exact .ok fun _ => .ahead ⟨rfl, rfl, hr₁⟩ hflags
      (not_opensComment (by decide))
  · exact skips_of_not ((opened_not_isBlank hcomment ho _ _).bind
      fun _ h => .ok h)

theorem skips_stepPlain (ht : t.outer ≠ []) {c : Char} (hc : c ≠ ')')
    (hr : r ≠ ['\\']) :
    Yields ((fresh fs).stepPlain c (r.length + 1) r)
      fun v => v.1.IsBlank → Fares (Skips t) (fresh fs) (c :: r) v
        (t.stepPlain c (r.length + 2) (r ++ [')'])) := by
  by_cases hopen : c = '('
  · subst hopen
    exact skips_opening ht hr
  · exact skips_of_not (stepPlain_not_isBlank hopen hc _ r)

/-- A comment is passed over unless it takes in the closing parenthesis. -/
theorem skips_line (ht : t.outer ≠ []) (hfs : fs.verbose = true)
    (hr : r ≠ ['\\']) :
    Yields (skipLine r >>= fun r => .ok (fresh fs, r))
      fun v => v.1.IsBlank → Fares (Skips t) (fresh fs) ('#' :: r) v
        (skipLine (r ++ [')']) >>= fun r => .ok (t, r)) := by
  refine (carries_skipLine hr).andYields (P := fun v x => v.1.IsBlank →
    Fares (Skips t) (fresh fs) ('#' :: r) v x) fun v w hvw => .ok fun _ => ?_
  rcases hvw with ⟨hopen, rfl, rfl⟩ | ⟨hopen, rfl, hleft⟩
  · exact .lost ht ⟨r, rfl, hfs, hopen⟩
  · refine .ahead ⟨rfl, rfl, hleft⟩ (not_beginsFlags (by decide)) ?_
    rintro ⟨_, heq, -, hopen'⟩
    cases heq
    cases hopen.symm.trans hopen'

/-- Blank space and comments are passed over in the group as well, where
no fewer flags are in force. -/
theorem blank_step (hle : fs.Le t.scope.flags) (ht : t.outer ≠ [])
    (hbar : t.hasBothBranches = false) (hne : r ≠ []) (hr : r ≠ ['\\'])
    (hclose : r.head? ≠ some ')') :
    Yields ((fresh fs).step r) fun v => v.1.IsBlank →
      Fares (Skips t) (fresh fs) r v (t.step (r ++ [')'])) := by
  obtain ⟨c, r, rfl⟩ := List.exists_cons_of_ne_nil hne
  have hc : c ≠ ')' := fun h => hclose (congrArg some h)
  have hbranch : ¬ ((c :: r ++ [')']).head? = some '|'
      ∧ t.hasBothBranches = true) := by
    rw [hbar]
    exact fun h => nomatch h.2
  have hfresh : ¬ ((c :: r).head? = some '|'
      ∧ (fresh fs).hasBothBranches = true) := fun h => nomatch h.2
  have hlength : (c :: r ++ [')']).length = r.length + 2 := by simp
  unfold step
  rw [if_neg hfresh, if_neg hbranch, hlength]
  refine andYields_lexeme? (P := fun v x => v.1.IsBlank →
    Fares (Skips t) (fresh fs) (c :: r) v x) hr (fun hr₁ => ?_)
    fun _ _ _ _ => ?_
  · have hverbose : fs.verbose = true → t.scope.flags.verbose = true := by
      intro h
      rw [← hle]
      show (fs.verbose || _) = true
      rw [h, Bool.true_or]
    dsimp only
    show Yields (if fs.verbose && isSpace c then _ else
      if fs.verbose && (c == '#') then _ else _) _
    cases hfs : fs.verbose with
    | false =>
        -- what the pattern alone reads here, the group may pass over
        rw [Bool.false_and, Bool.false_and, if_neg Bool.false_ne_true,
          if_neg Bool.false_ne_true]
        by_cases hopen : c = '('
        · subst hopen
          rw [show isSpace '(' = false by decide, Bool.and_false,
            show ('(' == '#') = false by decide, Bool.and_false,
            if_neg Bool.false_ne_true, if_neg Bool.false_ne_true]
          exact skips_opening ht hr₁
        · exact skips_of_not (stepPlain_not_isBlank hopen hc _ _)
    | true =>
        rw [hverbose hfs, Bool.true_and, Bool.true_and]
        split
        · next hspace =>
          refine .ok fun _ => .ahead ⟨rfl, rfl, hr₁⟩ (not_beginsFlags ?_)
            (not_opensComment ?_)
          · rintro rfl
            exact absurd hspace (by decide)
          · rintro rfl
            exact absurd hspace (by decide)
        · split
          · next hhash =>
            cases eq_of_beq hhash
            exact skips_line ht hfs hr₁
          · exact skips_stepPlain ht hc hr₁
  · refine skips_of_not ?_
    exact Yields.bind (P := fun _ => True) (fun _ _ => trivial) fun _ _ =>
      (addEscaped_not_isBlank _ _ _).bind fun _ h => .ok h

-- ======================================= the pattern behind the anchor

/-- In the group behind the anchor a pattern becomes what it is on its own,
or a stop on the way shows why not: as long as it turns flags on, the group
only passes blank space and comments; from then on both readings take the
same steps. -/
theorem read_enclosed {sf : State} (opened : Nat) (hr : r ≠ ['\\'])
    (hs : (fresh fs).read r = .ok (sf, [])) (hsf : sf.outer = [])
    (hgs : sf.scope.flags.settle = .ok gs) :
    Ends (.anchored gs) (fresh fs) r sf
      ((enclosed gs opened).read (r ++ [')'])) := by
  have hroom : 0 < depthLimit := by decide
  have hroot : sf.root = sf.scope := by
    unfold root
    rw [hsf]
    rfl
  induction hn : r.length using Nat.strongRecOn generalizing fs r with
  | ind n ih =>
      by_cases hsame : fs.Same gs
      · have hinside : Inside (.anchored gs) (fresh fs) (enclosed gs opened) :=
          ⟨.whole rfl rfl ⟨hsame, rfl, rfl⟩, ⟨rfl, rfl, rfl, rfl⟩⟩
        exact hinside.read hr hs hsf hroom
      -- The flags still have to grow, so the pattern is not at its end and
      -- nothing has been read into it.
      have hsettle : sf.root.flags ≠ fs := by
        rintro rfl
        rw [hroot] at hsame
        exact hsame (Flags.same_of_settle hgs)
      have hle : fs.Le gs := by
        have hgrow := flags_le_of_read hs
        rw [hroot] at hgrow
        exact hgrow.trans (Flags.le_of_settle hgs)
      have hgrows : (fresh fs).read [] ≠ .ok (sf, []) := by
        rw [read_nil]
        intro h
        cases h
        exact hsettle rfl
      have hne : r ≠ [] := by
        rintro rfl
        exact hgrows hs
      have hclose : r.head? ≠ some ')' :=
        fun hhead => outer_ne_nil_of_read hne hs hhead rfl
      obtain ⟨s', r', hstep, hlt, hread⟩ :=
        exists_step_of_read hne (fun h => absurd h hclose) hs
      rw [read_eq_bind
        (List.append_ne_nil_of_right_ne_nil r (List.cons_ne_nil ')' []))
        fun _ => List.cons_ne_nil _ _]
      rcases fresh_or_isRooted (becomes_of_step r _ hstep)
        with ⟨gs', rfl⟩ | hrooted
      · have hfares := blank_step (t := enclosed gs opened) hle
          (List.cons_ne_nil _ _) rfl hne hr hclose _ hstep ⟨rfl, rfl⟩
        generalize (enclosed gs opened).step (r ++ [')']) = x at hfares
        cases hfares with
        | @ahead _ w hskips hflags hcomment =>
            obtain ⟨t', r''⟩ := w
            obtain ⟨hstate, hleft, hr'⟩ := hskips
            cases hstate
            cases hleft
            exact (ih _ (hn ▸ hlt) hr' hread rfl).of_step hstep
              ⟨hflags, hcomment, hroom⟩
        | lost => exact absurd hread hgrows
        | late hflags => exact .late .here hflags
        | deep hdeep => exact absurd hdeep (Nat.not_le.2 hroom)
      · exact absurd (isRooted_of_read hrooted hread).flags hsettle

end State

-- ====================================================== groups of flags

/-- A letter that may stand in front of an anchor is that of a flag, and no
character that ends the flags. -/
theorem flag_of_isLetter {c : Char} (h : afterFlagGroup?.isLetter c) :
    (∃ f, Flag.ofLetter? c = some f) ∧ c ∉ ['\\', ')', '-', ':'] := by
  have hmem := List.contains_iff_mem.1 h
  simp only [List.mem_cons, List.not_mem_nil, or_false] at hmem
  rcases hmem with rfl | rfl | rfl | rfl | rfl | rfl | rfl
  all_goals exact ⟨⟨_, rfl⟩, by decide⟩

/-- A flag is turned on only if it may be. -/
theorem of_turnOn {f : Flag} {c : Char} {v : (Flags × Char) × Text}
    (hc : c ≠ '\\') (h : turnOn on f (c :: r) = .ok v) :
    f ≠ .locale ∧ (f.choosesAlphabet && (on.insert f).alphabetsClash) = false
      ∧ r ≠ ['\\'] := by
  rw [turnOn.eq_def] at h
  dsimp only at h
  split at h
  · cases h
  · next hlocale =>
    split at h
    · cases h
    · next hclash =>
      refine ⟨hlocale, eq_false_of_ne_true hclash, ?_⟩
      rintro rfl
      split at h
      · next hnil => cases hnil
      · next heq => exact hc (List.cons.inj heq).1
      · next heq =>
        cases heq
        cases h

/-- What is read behind a flag that is turned on. -/
theorem turnOn_cons {f : Flag} {c : Char} (hc : c ≠ '\\')
    (hlocale : f ≠ .locale)
    (hclash : (f.choosesAlphabet && (on.insert f).alphabetsClash) = false)
    (hr : r ≠ ['\\']) :
    turnOn on f (c :: r)
      = if c = ')' ∨ c = '-' ∨ c = ':' then .ok ((on.insert f, c), r)
        else
          match Flag.ofLetter? c with
          | some g => turnOn (on.insert f) g r
          | none => refuseFlag (.plain c) .missingFlagEnd r := by
  rw [turnOn.eq_def]
  dsimp only
  rw [if_neg hlocale, hclash, if_neg Bool.false_ne_true]
  split
  · next hnil => cases hnil
  · next heq => exact absurd (List.cons.inj heq).1 hc
  · next heq =>
    cases heq
    rw [settled_of_ne hr]
    rfl

/-- Flags up to a parenthesis are read alike whatever comes behind. -/
theorem turnOn_letters {f : Flag} {ls : Text}
    (hls : ∀ c ∈ ls, afterFlagGroup?.isLetter c) {v : (Flags × Char) × Text}
    (h : turnOn on f (ls ++ ')' :: r) = .ok v) :
    v.1.2 = ')' ∧ v.2 = r ∧ r ≠ ['\\'] ∧ ∀ r', r' ≠ ['\\'] →
      turnOn on f (ls ++ ')' :: r') = .ok (v.1, r') := by
  induction ls generalizing on f with
  | nil =>
      obtain ⟨hlocale, hclash, hr⟩ := of_turnOn (by decide) h
      have hclose : ∀ {r' : Text}, r' ≠ ['\\'] →
          turnOn on f (')' :: r') = .ok ((on.insert f, ')'), r') :=
        fun hr' => by rw [turnOn_cons (by decide) hlocale hclash hr',
          if_pos (Or.inl rfl)]
      rw [List.nil_append, hclose hr] at h
      cases h
      exact ⟨rfl, rfl, hr, fun r' hr' => hclose hr'⟩
  | cons c ls ih =>
      obtain ⟨⟨g, hg⟩, hc⟩ := flag_of_isLetter (hls c List.mem_cons_self)
      simp only [List.mem_cons, List.not_mem_nil, or_false, not_or] at hc
      obtain ⟨hlocale, hclash, -⟩ := of_turnOn hc.1 h
      have hgo : ∀ r' : Text,
          turnOn on f (c :: (ls ++ ')' :: r'))
            = turnOn (on.insert f) g (ls ++ ')' :: r') := by
        intro r'
        rw [turnOn_cons hc.1 hlocale hclash (by cases ls <;> simp),
          if_neg (by simp [hc]), hg]
      rw [List.cons_append, hgo] at h
      obtain ⟨hv, hleft, hr, hall⟩ :=
        ih (fun d hd => hls d (List.mem_cons_of_mem c hd)) h
      refine ⟨hv, hleft, hr, fun r' hr' => ?_⟩
      rw [List.cons_append, hgo, hall r' hr']

/-- The text of a group of flags. -/
def flagGroup (ls : Text) : Text := '(' :: '?' :: (ls ++ [')'])

/-- What a text begins with, if it begins with a group of flags. -/
theorem exists_letters {t : Text} (h : afterFlagGroup? t = some r) :
    ∃ l ls, afterFlagGroup?.isLetter l
      ∧ (∀ c ∈ ls, afterFlagGroup?.isLetter c)
      ∧ t = flagGroup (l :: ls) ++ r := by
  unfold afterFlagGroup? at h
  split at h
  · next r' =>
    dsimp only at h
    split at h
    · next l ls rest htake hdrop =>
      cases h
      have hall : ∀ c ∈ l :: ls, afterFlagGroup?.isLetter c := by
        rw [← htake]
        exact fun c hc => List.mem_takeWhile_imp hc
      rw [List.forall_mem_cons] at hall
      refine ⟨l, ls, hall.1, hall.2, ?_⟩
      have hsplit := List.takeWhile_append_dropWhile
        (p := afterFlagGroup?.isLetter) (l := r')
      rw [htake, hdrop] at hsplit
      rw [← hsplit]
      simp [flagGroup]
    · cases h
  · cases h

/-- A letter behind the question mark begins a row of flags. -/
theorem opening_letter {l : Char} {f : Flag} {t : Text} (o : Nat)
    (hl : afterFlagGroup?.isLetter l) (hf : Flag.ofLetter? l = some f)
    (ht : t ≠ ['\\']) : opening o ('?' :: l :: t) = flagsOn f t := by
  have hne : l :: t ≠ ['\\'] := by
    intro h
    rw [(List.cons.inj h).1] at hf
    cases hf
  have haccept : accept? '?' ('?' :: l :: t) = .ok (some (l :: t)) := by
    show (settled (l :: t) >>= fun _ => _) = _
    rw [settled_of_ne hne]
    rfl
  have hback : l ≠ '\\' := by
    rintro rfl
    cases hf
  unfold opening
  rw [haccept]
  show (lexeme? (l :: t) >>= _) = _
  rw [lexeme?_plain hback ht]
  have hmem := List.contains_iff_mem.1 hl
  simp only [List.mem_cons, List.not_mem_nil, or_false] at hmem
  rcases hmem with rfl | rfl | rfl | rfl | rfl | rfl | rfl
  all_goals
    cases hf
    rfl

/-- A group of flags at the start is read as such, whatever follows it. -/
theorem opening_flagGroup {o : Nat} {l : Char} {ls : Text}
    (hl : afterFlagGroup?.isLetter l)
    (hls : ∀ c ∈ ls, afterFlagGroup?.isLetter c) {v : Opening × Text}
    (h : opening o ('?' :: l :: (ls ++ ')' :: r)) = .ok v) :
    ∃ on, v = (.flags on, r) ∧ r ≠ ['\\'] ∧ ∀ o' r', r' ≠ ['\\'] →
      opening o' ('?' :: l :: (ls ++ ')' :: r')) = .ok (.flags on, r') := by
  obtain ⟨⟨f, hf⟩, -⟩ := flag_of_isLetter hl
  have hne : ∀ r' : Text, ls ++ ')' :: r' ≠ ['\\'] := by
    intro r'
    cases ls <;> simp
  rw [opening_letter o hl hf (hne r)] at h
  obtain ⟨⟨⟨on, c⟩, r₁⟩, hw, hv⟩ := exists_of_bind h
  obtain ⟨hc, hleft, hr, hall⟩ := turnOn_letters hls hw
  cases hc
  cases hleft
  cases hv
  refine ⟨on, rfl, hr, fun o' r' hr' => ?_⟩
  rw [opening_letter o' hl hf (hne r')]
  unfold flagsOn
  rw [hall r' hr']
  rfl

namespace State

/-- A character that is passed over under no flags. -/
theorem step_visible {c : Char} (hc : c ∉ ['\\', '|', '#'])
    (hspace : isSpace c = false) (hr : r ≠ ['\\']) :
    s.step (c :: r) = s.stepPlain c (r.length + 1) r := by
  simp only [List.mem_cons, List.not_mem_nil, or_false, not_or] at hc
  unfold step
  rw [if_neg fun h => hc.2.1 (Option.some.inj h.1), lexeme?_plain hc.1 hr]
  show (if s.scope.flags.verbose && isSpace c then _ else
    if s.scope.flags.verbose && (c == '#') then _ else _) = _
  rw [hspace, beq_eq_false_iff_ne.2 hc.2.2, Bool.and_false,
    if_neg Bool.false_ne_true, if_neg Bool.false_ne_true]
  rfl

/-- A group of flags is read into the blank state whatever comes behind;
it turns on the same flags. -/
theorem exists_of_flagGroup {l : Char} {ls : Text} {v : State × Text}
    (hl : afterFlagGroup?.isLetter l)
    (hls : ∀ c ∈ ls, afterFlagGroup?.isLetter c)
    (h : (fresh fs).step (flagGroup (l :: ls) ++ r) = .ok v) :
    ∃ on, v = (fresh (fs.union on), r) ∧ r ≠ ['\\'] ∧ ∀ gs r',
      r' ≠ ['\\'] → (fresh gs).step (flagGroup (l :: ls) ++ r')
        = .ok (fresh (gs.union on), r') := by
  have htext : ∀ r' : Text, flagGroup (l :: ls) ++ r'
      = '(' :: '?' :: l :: (ls ++ ')' :: r') := by
    intro r'
    simp [flagGroup]
  have hstep : ∀ (gs : Flags) (t : Text),
      (fresh gs).step ('(' :: '?' :: l :: t)
        = opening (t.length + 3) ('?' :: l :: t) >>= fun v =>
          (fresh gs).opened v.1 (t.length + 3) v.2.length
            >>= fun s => .ok (s, v.2) :=
    fun gs t => step_visible (by decide) (by decide) fun h => by cases h
  rw [htext, hstep] at h
  obtain ⟨w, hw, hv⟩ := exists_of_bind h
  obtain ⟨on, rfl, hr, hall⟩ := opening_flagGroup hl hls hw
  cases hv
  refine ⟨on, rfl, hr, fun gs r' hr' => ?_⟩
  rw [htext, hstep, hall _ r' hr']
  rfl

/-- The groups of flags that a pattern begins with do the same in front of
any other text, and nothing more where their flags are in force. -/
theorem exists_preamble {t : Text} {v : State × Text} (ht : t ≠ ['\\'])
    (h : (fresh fs).read t = .ok v) :
    ∃ w gs, Preamble fs t v w gs (afterFlagGroups t) := by
  -- The flags grow from group to group, so they are generalised.
  fun_induction afterFlagGroups t generalizing fs with
  | case1 t hnone =>
      exact ⟨[], fs, rfl, ht, Flags.le_refl fs, h,
        fun _ _ _ hr => ⟨hr, rfl⟩, fun _ _ _ => Iff.rfl⟩
  | case2 t r hsome _ ih =>
      obtain ⟨l, ls, hl, hls, rfl⟩ := exists_letters hsome
      have hne : ∀ r' : Text, flagGroup (l :: ls) ++ r' ≠ [] :=
        fun r' => List.cons_ne_nil _ _
      have hclose : ∀ (s : State) (r' : Text),
          (flagGroup (l :: ls) ++ r').head? = some ')' → s.outer ≠ [] :=
        fun _ _ hp => absurd (Option.some.inj hp) (by decide)
      obtain ⟨s', r', hstep, -, hread⟩ :=
        exists_step_of_read (hne r) (hclose _ r) h
      obtain ⟨on, hv, hr, hothers⟩ := exists_of_flagGroup hl hls hstep
      cases hv
      obtain ⟨w, gs, hsplit, hbody, hle, hrest, hagain, hpasses⟩ := ih hr hread
      refine ⟨flagGroup (l :: ls) ++ w, gs, ?_, hbody,
        (Flags.le_union_left fs on).trans hle, hrest,
        fun hs r' hle' hr' => ?_, fun s q hq => ?_⟩
      · rw [List.append_assoc, ← hsplit]
      · obtain ⟨hw, hread'⟩ := hagain hs r' hle' hr'
        have hon : on.Le hs :=
          (Flags.le_union_right fs on).trans (hle.trans hle')
        have hlone : flagGroup (l :: ls) ++ w ++ r' ≠ ['\\'] := nofun
        refine ⟨hlone, ?_⟩
        rw [List.append_assoc,
          read_of_step (hne _) (hclose _ _) (hothers hs _ hw),
          Flags.union_eq_of_le hon, hread']
      · rw [← hpasses s q hq]
        refine ⟨fun h => ?_, .step hstep⟩
        rcases h.eq_or_of_step hstep with ⟨-, rfl⟩ | h
        · -- the text itself is longer than what comes behind the groups
          have hlength := congrArg List.length hsplit
          simp only [flagGroup, List.length_append, List.length_cons]
            at hlength hq
          omega
        · exact h

end State

end Highlight.Regex
