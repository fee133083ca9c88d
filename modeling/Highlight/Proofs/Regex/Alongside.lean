/-
Reading a text with a closing parenthesis behind it.

A reader never looks further than it reads, so what it makes of a text it
also makes of the text with a parenthesis behind it, and the parenthesis
is left (`Ahead`). Two readers that go through the same steps are compared
step by step: where the first one succeeds, so does the second
(`Carries`). Nothing is said of texts that the first one refuses, so it
does not matter that faults are reported at other places.

# The end of the text

A reader that has come to the end finds the parenthesis there instead. It
stops for it as it does for the end, but for the one that skips the rest
of a line: the parenthesis is part of that line if no line feed ends it
(`carries_skipLine`). A lone backslash at the end would take the
parenthesis for itself; no reader leaves one.
-/
import Highlight.Regex.Parse

namespace Highlight.Regex

-- ========================================================== vocabulary

/-- Where the first reading succeeds, so does the second one, and what
they read is so related. -/
def Carries {α β : Type} (R : α → β → Prop) (m : Except Refusal α)
    (m' : Except Refusal β) : Prop :=
  Yields m fun a => ∃ b, m' = .ok b ∧ R a b

/-- The same was read, and the same text is left, with a parenthesis
behind it. -/
structure Ahead {α : Type} (v w : α × Text) : Prop where
  eq : w.1 = v.1
  left : w.2 = v.2 ++ [')']
  settled : v.2 ≠ ['\\']

/-- Either both have nothing, or the same text but for a parenthesis. -/
inductive MaybeAhead : Option Text → Option Text → Prop
  | none : MaybeAhead none none
  | some {r : Text} (h : r ≠ ['\\']) : MaybeAhead (some r) (some (r ++ [')']))

/-- No line feed ends the line, but for those behind a backslash. -/
def isOpenLine : Text → Bool
  | [] => true
  | '\\' :: _ :: r => isOpenLine r
  | c :: r => c != '\n' && isOpenLine r

namespace Carries

variable {α β γ δ : Type} {R : α → β → Prop} {S : γ → δ → Prop}
  {m : Except Refusal α} {m' : Except Refusal β} {r : Text}

/-- Results that are related are carried along. -/
theorem ok {a : α} {b : β} (h : R a b) : Carries R (.ok a) (.ok b) :=
  Yields.ok ⟨b, rfl, h⟩

/-- A reading is the same as itself. -/
theorem same {m : Except Refusal α} : Carries (· = ·) m m :=
  fun a h => ⟨a, h, rfl⟩

/-- Where the first reading fails, nothing is asked of the second one. -/
theorem error {e : Refusal} : Carries R (.error e) m' := Yields.error

theorem refuse {f : Fault} {n : Nat} : Carries R (refuse f n) m' :=
  Yields.refuse

/-- Whatever is known of the two ways to go on is known of the whole. -/
theorem andYields {f : α → Except Refusal γ} {g : β → Except Refusal δ}
    {P : γ → Except Refusal δ → Prop} (hm : Carries R m m')
    (hf : ∀ a b, R a b → Yields (f a) fun c => P c (g b)) :
    Yields (m >>= f) fun c => P c (m' >>= g) := by
  refine Yields.bind hm ?_
  rintro a ⟨b, rfl, h⟩
  exact hf a b h

/-- Readings are carried along one after the other. -/
theorem bind {f : α → Except Refusal γ} {g : β → Except Refusal δ}
    (hm : Carries R m m') (hf : ∀ a b, R a b → Carries S (f a) (g b)) :
    Carries S (m >>= f) (m' >>= g) :=
  hm.andYields (P := fun c x => ∃ d, x = .ok d ∧ S c d) hf

/-- What the first reading leaves is no lone backslash. -/
theorem settled {f : Unit → Except Refusal α} {g : Unit → Except Refusal β}
    (h : r ≠ ['\\'] → Carries R (f ()) (g ())) :
    Carries R (Regex.settled r >>= f)
      (Regex.settled (r ++ [')']) >>= g) := by
  intro a ha
  have hne : r ≠ ['\\'] := by
    rintro rfl
    cases ha
  have hlast : Regex.settled (r ++ [')']) = .ok () :=
    if_neg (append_parenthesis_ne r)
  rw [hlast]
  exact h hne a (of_settled ha)

/-- What is read already leaves the same rest, with the parenthesis behind
it. -/
theorem ahead {a : α} (h : r ≠ ['\\']) :
    Carries Ahead (.ok (a, r)) (.ok (a, r ++ [')'])) :=
  .ok ⟨rfl, rfl, h⟩

/-- What follows a reader goes on with what that has read. -/
theorem thenYields {m m' : Except Refusal (α × Text)}
    {f : α × Text → Except Refusal γ} {g : α × Text → Except Refusal δ}
    {P : γ → Except Refusal δ → Prop} (hm : Carries Ahead m m')
    (hf : ∀ a r, r ≠ ['\\'] →
      Yields (f (a, r)) fun c => P c (g (a, r ++ [')']))) :
    Yields (m >>= f) fun c => P c (m' >>= g) := by
  refine hm.andYields fun v w h => ?_
  obtain ⟨a, r⟩ := v
  obtain ⟨b, r'⟩ := w
  obtain ⟨heq, hleft, hne⟩ := h
  cases heq
  cases hleft
  exact hf a r hne

/-- What follows a reading has only to be carried along for the rests it
can leave. -/
theorem andThen {m m' : Except Refusal (α × Text)}
    {f g : α × Text → Except Refusal γ} {T : γ → γ → Prop}
    (hm : Carries Ahead m m')
    (hf : ∀ a r, r ≠ ['\\'] → Carries T (f (a, r)) (g (a, r ++ [')']))) :
    Carries T (m >>= f) (m' >>= g) :=
  hm.thenYields (P := fun c x => ∃ d, x = .ok d ∧ T c d) hf

/-- A check of the rest concerns the first reading only. -/
theorem settled_left {f : Unit → Except Refusal α}
    (h : Carries R (f ()) m') :
    Carries R (Regex.settled r >>= f) m' :=
  Yields.settled h

theorem refuseFlag {l : Lexeme} {f : Fault} :
    Carries R (refuseFlag l f r) m' :=
  yields_refuseFlag l f r

end Carries

variable {r : Text}

-- ============================================================= lexemes

/-- A parenthesis behind a text is nothing that a reader accepts. -/
theorem carries_accept? {c : Char} (hc : c ≠ ')') (r : Text) :
    Carries MaybeAhead (accept? c r) (accept? c (r ++ [')'])) := by
  cases r with
  | nil =>
      show Carries _ (.ok none) (if ')' = c then _ else _)
      rw [if_neg (Ne.symm hc)]
      exact .ok .none
  | cons d r =>
      show Carries _ (if d = c then _ else _) (if d = c then _ else _)
      by_cases hd : d = c
      · rw [if_pos hd, if_pos hd]
        exact .settled fun h => .ok (.some h)
      · rw [if_neg hd, if_neg hd]
        exact .ok .none

/-- A character that begins no escape is no backslash, unless it is the
lone one. -/
theorem ne_backslash {c : Char} (hr : c :: r ≠ ['\\'])
    (h : ∀ d r', c = '\\' → r = d :: r' → False) : c ≠ '\\' := by
  rintro rfl
  cases r with
  | nil => exact hr rfl
  | cons d r => exact h d r rfl rfl

/-- The next lexeme is the next character, or one behind a backslash. -/
theorem lexeme?_cons {c : Char} (hr : c :: r ≠ ['\\']) :
    Carries (fun v w => Ahead v w ∧ (v = (some (.plain c), r)
        ∨ c = '\\' ∧ ∃ d, v.1 = some (.escaped d)))
      (lexeme? (c :: r)) (lexeme? (c :: (r ++ [')']))) := by
  by_cases hc : c = '\\'
  · subst hc
    cases r with
    | nil => exact absurd rfl hr
    | cons d r =>
        exact .settled fun h => .ok ⟨⟨rfl, rfl, h⟩, Or.inr ⟨rfl, d, rfl⟩⟩
  · rw [lexeme?.eq_3 _ _ fun _ _ h => absurd h hc,
      lexeme?.eq_3 _ _ fun _ _ h => absurd h hc]
    exact .settled fun h => .ok ⟨⟨rfl, rfl, h⟩, Or.inl rfl⟩

/-- A reader that goes on with a lexeme goes on with the same one. -/
theorem andYields_lexeme? {α β : Type} {P : α → Except Refusal β → Prop}
    {c : Char} {f : Option Lexeme × Text → Except Refusal α}
    {g : Option Lexeme × Text → Except Refusal β} (hr : c :: r ≠ ['\\'])
    (hplain : r ≠ ['\\'] → Yields (f (some (.plain c), r))
      fun v => P v (g (some (.plain c), r ++ [')'])))
    (hescaped : c = '\\' → ∀ d r', r' ≠ ['\\'] →
      Yields (f (some (.escaped d), r'))
        fun v => P v (g (some (.escaped d), r' ++ [')']))) :
    Yields (lexeme? (c :: r) >>= f)
      fun v => P v (lexeme? (c :: (r ++ [')'])) >>= g) := by
  refine (lexeme?_cons hr).andYields fun v w h => ?_
  obtain ⟨⟨heq, hleft, hne⟩, hl⟩ := h
  obtain ⟨o, r'⟩ := w
  cases heq
  cases hleft
  rcases hl with rfl | ⟨hc, d, hd⟩
  · exact hplain hne
  · obtain ⟨o, r'⟩ := v
    cases hd
    exact hescaped hc d r' hne

/-- Without a lexeme the reader stops. -/
theorem carries_lexeme? {α : Type}
    {f g : Option Lexeme × Text → Except Refusal (α × Text)}
    (hr : r ≠ ['\\']) (hnone : ∀ r w, Carries Ahead (f (none, r)) w)
    (hsome : ∀ l r, r ≠ ['\\'] →
      Carries Ahead (f (some l, r)) (g (some l, r ++ [')']))) :
    Carries Ahead (lexeme? r >>= f) (lexeme? (r ++ [')']) >>= g) := by
  cases r with
  | nil => exact hnone _ _
  | cons c r =>
      exact andYields_lexeme? (P := fun v x => ∃ w, x = .ok w ∧ Ahead v w) hr
        (hsome _ r) fun _ d => hsome _

/-- A character of another kind adds nothing to a run, also where the run
is cut off at some length. -/
theorem takeWhile_take_concat {kind : Char → Bool} {c : Char}
    (hc : kind c = false) (n : Nat) (r : Text) :
    ((r ++ [c]).take n).takeWhile kind = (r.take n).takeWhile kind := by
  induction r generalizing n with
  | nil =>
      cases n with
      | zero => rfl
      | succ n => simp [hc]
  | cons d r ih =>
      cases n with
      | zero => rfl
      | succ n =>
          rw [List.cons_append, List.take_succ_cons, List.take_succ_cons,
            List.takeWhile_cons, List.takeWhile_cons, ih]

/-- A parenthesis is never part of a run of digits or letters. -/
theorem carries_some? {kind : Char → Bool} (hkind : kind ')' = false)
    (n : Nat) (r : Text) :
    Carries Ahead (some? kind n r) (some? kind n (r ++ [')'])) := by
  have hle : ((r.take n).takeWhile kind).length ≤ r.length :=
    Nat.le_trans (List.takeWhile_prefix _).length_le
      (List.length_take_le' n r)
  unfold some?
  simp only [takeWhile_take_concat hkind, List.drop_append_of_le_length hle]
  exact .settled fun h => .ahead h

/-- A row of characters up to the end of the text. -/
theorem carries_some?_all {kind : Char → Bool} (hkind : kind ')' = false)
    (r : Text) :
    Carries Ahead (some? kind r.length r)
      (some? kind (r ++ [')']).length (r ++ [')'])) := by
  have hall : some? kind r.length r = some? kind (r ++ [')']).length r := by
    unfold some?
    rw [List.take_length, List.take_of_length_le (by simp)]
  rw [hall]
  exact carries_some? hkind _ r

/-- A name ends with its own closing character, so a parenthesis behind the
text is not reached. -/
theorem carries_nameUntil (closing : Char) (what : String)
    (hr : r ≠ ['\\']) :
    Carries Ahead (nameUntil closing what r)
      (nameUntil closing what (r ++ [')'])) := by
  suffices ∀ seen, Carries Ahead (nameUntil.go closing what seen r)
      (nameUntil.go closing what seen (r ++ [')'])) from this []
  intro seen
  fun_induction nameUntil.go closing what seen r with
  | case1 => exact .refuse
  | case2 => exact .refuse
  | case3 seen c r ih => exact .settled fun h => ih h
  | case4 seen c r hesc ih =>
      have hc := ne_backslash hr hesc
      rw [List.cons_append, nameUntil.go.eq_3 _ _ _ _ _
        fun _ _ h => absurd h hc]
      refine .settled fun h => ?_
      by_cases hclose : c = closing
      · rw [if_pos hclose, if_pos hclose]
        split
        · exact .refuse
        · exact .ahead h
      · rw [if_neg hclose, if_neg hclose]
        exact ih h

/-- The rest of a line takes in the parenthesis when no line feed ends
it. -/
theorem carries_skipLine (hr : r ≠ ['\\']) :
    Carries (fun v w => (isOpenLine r = true ∧ v = [] ∧ w = [])
        ∨ (isOpenLine r = false ∧ w = v ++ [')'] ∧ v ≠ ['\\']))
      (skipLine r) (skipLine (r ++ [')'])) := by
  fun_induction skipLine r with
  | case1 => exact .ok (Or.inl ⟨rfl, rfl, rfl⟩)
  | case2 c r ih => exact .settled fun h => ih h
  | case3 c r hesc ih =>
      have hc := ne_backslash hr hesc
      rw [List.cons_append, skipLine.eq_3 _ _ fun _ _ h => absurd h hc,
        isOpenLine.eq_3 _ _ fun _ _ h => absurd h hc]
      refine .settled fun h => ?_
      by_cases hfeed : c = '\n'
      · rw [if_pos hfeed, if_pos hfeed, hfeed]
        exact .ok (Or.inr ⟨rfl, rfl, h⟩)
      · rw [if_neg hfeed, if_neg hfeed, bne_iff_ne.2 hfeed, Bool.true_and]
        exact ih h

/-- A comment that is closed is closed by a parenthesis of its own. -/
theorem carries_skipComment (o o' : Nat) (hr : r ≠ ['\\']) :
    Carries (fun v w => w = v ++ [')'] ∧ v ≠ ['\\'])
      (skipComment o r) (skipComment o' (r ++ [')'])) := by
  fun_induction skipComment o r with
  | case1 => exact .refuse
  | case2 c r ih => exact .settled fun h => ih h
  | case3 c r hesc ih =>
      have hc := ne_backslash hr hesc
      rw [List.cons_append, skipComment.eq_3 _ _ _ fun _ _ h => absurd h hc]
      refine .settled fun h => ?_
      by_cases hclose : c = ')'
      · rw [if_pos hclose, if_pos hclose]
        exact .ok ⟨rfl, h⟩
      · rw [if_neg hclose, if_neg hclose]
        exact ih h

-- ============================================================= escapes

theorem carries_hexCode (letter : Char) (n : Nat) (r : Text) :
    Carries Ahead (hexCode letter n r) (hexCode letter n (r ++ [')'])) := by
  refine (carries_some? (by decide) n r).andThen fun ds r h => ?_
  dsimp only
  split
  · exact .refuse
  · split
    · exact .error
    · split
      · exact .refuse
      · exact .ahead h

theorem carries_namedCode (r : Text) :
    Carries Ahead (namedCode r) (namedCode (r ++ [')'])) := by
  refine (carries_accept? (by decide) r).bind fun o o' h => ?_
  cases h with
  | none => exact .refuse
  | some h =>
      refine (carries_nameUntil _ _ h).andThen fun name r h => ?_
      dsimp only
      split
      · exact .ahead h
      · exact .refuse

/-- Both letters are followed by a code, or neither. -/
theorem code?_cases (c : Char) (r : Text) :
    (code? c r = none ∧ code? c (r ++ [')']) = none)
      ∨ ∃ m m', code? c r = some m ∧ code? c (r ++ [')']) = some m'
        ∧ Carries Ahead m m' := by
  unfold code?
  split
  · exact Or.inr ⟨_, _, rfl, rfl, carries_hexCode _ _ r⟩
  · exact Or.inr ⟨_, _, rfl, rfl, carries_hexCode _ _ r⟩
  · exact Or.inr ⟨_, _, rfl, rfl, carries_hexCode _ _ r⟩
  · exact Or.inr ⟨_, _, rfl, rfl, carries_namedCode r⟩
  · exact Or.inl ⟨rfl, rfl⟩

/-- Octal digits that have been read stand for the same character. -/
theorem carries_octalCode (ds : Text) (hr : r ≠ ['\\']) :
    Carries Ahead (octalCode ds r) (octalCode ds (r ++ [')'])) := by
  unfold octalCode
  dsimp only
  split
  · exact .refuse
  · exact .ahead hr

/-- A character behind a backslash that stands for itself. -/
theorem carries_selfEscape (c : Char) (hr : r ≠ ['\\']) :
    Carries Ahead (selfEscape c r) (selfEscape c (r ++ [')'])) := by
  unfold selfEscape
  split
  · exact .refuse
  · exact .ahead hr

/-- Digits behind a backslash, octal or decimal. -/
theorem carries_numbered (d : Char) (r : Text) :
    Carries Ahead (numbered d r) (numbered d (r ++ [')'])) := by
  refine (carries_some? (by decide) 1 r).andThen fun second r h => ?_
  dsimp only
  split
  · refine (carries_some? (by decide) 1 r).andThen fun third r h => ?_
    dsimp only
    split
    · exact .ahead h
    · exact (carries_octalCode _ h).andThen fun n r h => .ahead h
  · exact .ahead h

/-- Every escape outside of a set is read alike. -/
theorem carries_escape (ascii : Bool) (c : Char) (hr : r ≠ ['\\']) :
    Carries Ahead (escape ascii c r) (escape ascii c (r ++ [')'])) := by
  unfold escape
  rcases category? c with _ | ⟨k, negated⟩
  · rcases assertion? ascii c with _ | a
    · rcases control? c with _ | n
      · rcases code?_cases c r with ⟨h, h'⟩ | ⟨m, m', h, h', hm⟩
        · rw [h, h']
          dsimp only
          split
          · exact (carries_some? (by decide) 2 r).andThen
              fun ds r h => .ahead h
          · split
            · exact carries_numbered c r
            · exact (carries_selfEscape c hr).andThen fun n r h => .ahead h
        · rw [h, h']
          exact hm.andThen fun n r h => .ahead h
      · exact .ahead hr
    · exact .ahead hr
  · exact .ahead hr

-- ================================================================ sets

/-- Every escape inside a set is read alike. -/
theorem carries_memberEscape (c : Char) (hr : r ≠ ['\\']) :
    Carries Ahead (memberEscape c r) (memberEscape c (r ++ [')'])) := by
  unfold memberEscape
  rcases category? c with _ | ⟨k, negated⟩
  · rcases control? c with _ | n
    · rcases code?_cases c r with ⟨h, h'⟩ | ⟨m, m', h, h', hm⟩
      · rw [h, h']
        dsimp only
        split
        · exact .ahead hr
        · split
          · refine (carries_some? (by decide) 2 r).andThen fun ds r h => ?_
            exact (carries_octalCode _ h).andThen fun n r h => .ahead h
          · exact (carries_selfEscape c hr).andThen fun n r h => .ahead h
      · rw [h, h']
        exact hm.andThen fun n r h => .ahead h
    · exact .ahead hr
  · exact .ahead hr

/-- A member of a set is one lexeme with what belongs to it. -/
theorem carries_member (l : Lexeme) (hr : r ≠ ['\\']) :
    Carries Ahead (member l r) (member l (r ++ [')'])) := by
  cases l with
  | plain c => exact .ahead hr
  | escaped c => exact carries_memberEscape c hr

/-- A member or a range, whose bounds are read one by one. -/
theorem carries_members (o o' : Nat) (fresh : Bool) (hr : r ≠ ['\\']) :
    Carries Ahead (members o fresh r) (members o' fresh (r ++ [')'])) := by
  refine carries_lexeme? hr (fun _ _ => .refuse) fun l r h => ?_
  dsimp only
  split
  · exact .ahead h
  · refine (carries_member l h).andThen fun lo r h => ?_
    refine (carries_accept? (by decide) r).bind fun o o' ho => ?_
    cases ho with
    | none => exact .ahead h
    | some h =>
        refine carries_lexeme? h (fun _ _ => .refuse) fun l' r h => ?_
        dsimp only
        split
        · exact .ahead h
        · refine (carries_member l' h).andThen fun hi r h => ?_
          dsimp only
          split
          · exact .ahead h
          · exact .refuse

/-- A set is read up to its own bracket, member by member. -/
theorem carries_allMembers (o o' : Nat) (seen : List Member)
    (hr : r ≠ ['\\']) :
    Carries Ahead (allMembers o seen r)
      (allMembers o' seen (r ++ [')'])) := by
  have hmembers := carries_members o o' seen.isEmpty hr
  fun_induction allMembers o seen r with
  | case1 => exact .error
  | case2 seen r ms r' hm _ =>
      obtain ⟨⟨_, _⟩, hm', heq, hleft, hne⟩ := hmembers _ hm
      cases heq
      cases hleft
      have hdone : allMembers o' seen (r ++ [')'])
          = .ok (seen ++ ms, r' ++ [')']) := by
        rw [allMembers]
        split
        · next h => cases hm'.symm.trans h
        · next h =>
          cases hm'.symm.trans h
          rfl
      rw [hdone]
      exact .ahead hne
  | case3 seen r ms closed r' hm _ hopen ih =>
      obtain ⟨⟨_, _⟩, hm', heq, hleft, hne⟩ := hmembers _ hm
      cases heq
      cases hleft
      have hmore : allMembers o' seen (r ++ [')'])
          = allMembers o' (seen ++ ms) (r' ++ [')']) := by
        rw [allMembers]
        split
        · next h => cases hm'.symm.trans h
        · next h =>
          cases hm'.symm.trans h
          exact if_neg hopen
      rw [hmore]
      exact ih hne (carries_members _ _ _ hne)

/-- A set with its brackets. The place where it began only shows in reports
of a fault, so it may differ. -/
theorem carries_bracketed (fold : Fold) (ascii : Bool) (o o' : Nat)
    (hr : r ≠ ['\\']) :
    Carries Ahead (bracketed fold ascii o r)
      (bracketed fold ascii o' (r ++ [')'])) := by
  refine (carries_accept? (by decide) r).bind fun a a' ha => ?_
  cases ha with
  | none =>
      exact (carries_allMembers _ _ _ hr).andThen fun ms r h => .ahead h
  | some h =>
      exact (carries_allMembers _ _ _ h).andThen fun ms r h => .ahead h

-- =============================================================== flags

/-- Flags are turned on letter by letter, up to a colon, a hyphen or a
parenthesis of their own. -/
theorem carries_turnOn (on : Flags) (f : Flag) (hr : r ≠ ['\\']) :
    Carries Ahead (turnOn on f r) (turnOn on f (r ++ [')'])) := by
  fun_induction turnOn on f r with
  | case1 => exact .refuse
  | case2 => exact .refuse
  | case3 => exact .refuse
  | case4 => exact .settled_left .refuseFlag
  | case5 on f on' hl ha c r hesc ih =>
      have hc := ne_backslash hr hesc
      rw [List.cons_append, turnOn.eq_3 _ _ _ _ fun _ _ h => absurd h hc,
        if_neg hl, if_neg ha]
      refine .settled fun h => ?_
      by_cases hend : c = ')' ∨ c = '-' ∨ c = ':'
      · rw [if_pos hend, if_pos hend]
        exact .ahead h
      · rw [if_neg hend, if_neg hend]
        split
        · next g hg => exact ih g h
        · exact .refuseFlag

/-- Flags are turned off letter by letter, up to a colon. -/
theorem carries_turnOff (off : Flags) (f : Flag) (hr : r ≠ ['\\']) :
    Carries Ahead (turnOff off f r) (turnOff off f (r ++ [')'])) := by
  fun_induction turnOff off f r with
  | case1 => exact .refuse
  | case2 => exact .refuse
  | case3 => exact .settled_left .refuseFlag
  | case4 off f off' ha c r hesc ih =>
      have hc := ne_backslash hr hesc
      rw [List.cons_append, turnOff.eq_3 _ _ _ _ fun _ _ h => absurd h hc,
        if_neg ha]
      refine .settled fun h => ?_
      by_cases hend : c = ':'
      · rw [if_pos hend, if_pos hend]
        exact .ahead h
      · rw [if_neg hend, if_neg hend]
        split
        · next g hg => exact ih g h
        · exact .refuseFlag

theorem carries_flagsOff (on : Flags) (hr : r ≠ ['\\']) :
    Carries Ahead (flagsOff on r) (flagsOff on (r ++ [')'])) := by
  refine carries_lexeme? hr (fun _ _ => .refuse) fun l r h => ?_
  cases l with
  | escaped c => exact .refuse
  | plain c =>
      dsimp only
      split
      · exact .refuseFlag
      · refine (carries_turnOff _ _ h).andThen fun off r h => ?_
        dsimp only
        split
        · exact .refuse
        · split
          · exact .refuse
          · exact .ahead h

theorem carries_flagsOn (f : Flag) (hr : r ≠ ['\\']) :
    Carries Ahead (flagsOn f r) (flagsOn f (r ++ [')'])) := by
  refine (carries_turnOn _ _ hr).andThen fun v r h => ?_
  obtain ⟨on, closing⟩ := v
  dsimp only
  split
  · exact .ahead h
  · split
    · exact .refuse
    · split
      · exact carries_flagsOff on h
      · exact .ahead h

-- ============================================================== groups

/-- A name in parentheses or angle brackets. -/
theorem carries_groupName (closing : Char) (hr : r ≠ ['\\']) :
    Carries Ahead (groupName closing r)
      (groupName closing (r ++ [')'])) := by
  refine (carries_nameUntil _ _ hr).andThen fun name r h => ?_
  dsimp only
  split
  · exact .ahead h
  · exact .refuse

/-- What is written with a name: a group or a reference to one. -/
theorem carries_named (hr : r ≠ ['\\']) :
    Carries Ahead (named r) (named (r ++ [')'])) := by
  refine (carries_accept? (by decide) r).bind fun o o' ho => ?_
  cases ho with
  | some h =>
      exact (carries_groupName _ h).andThen fun name r h => .ahead h
  | none =>
      refine (carries_accept? (by decide) r).bind fun o o' ho => ?_
      cases ho with
      | some h =>
          exact (carries_groupName _ h).andThen fun name r h => .ahead h
      | none =>
          exact carries_lexeme? hr (fun _ _ => .refuse)
            fun l r h => .refuse

/-- What begins like a look-behind or like a name. -/
theorem carries_lookBehind (hr : r ≠ ['\\']) :
    Carries Ahead (lookBehind r) (lookBehind (r ++ [')'])) := by
  refine carries_lexeme? hr (fun _ _ => .refuse) fun l r h => ?_
  dsimp only
  split
  · exact .ahead h
  · split
    · exact .ahead h
    · exact .refuse

/-- Everything that a question mark behind a parenthesis can mean. -/
theorem carries_extension (o o' : Nat) (l : Lexeme) (hr : r ≠ ['\\']) :
    Carries Ahead (extension o l r) (extension o' l (r ++ [')'])) := by
  unfold extension
  split
  · exact .refuse
  · exact carries_named hr
  · exact .ahead hr
  · refine (carries_skipComment o o' hr).bind fun v w h => ?_
    obtain ⟨rfl, hne⟩ := h
    exact .ahead hne
  · exact .ahead hr
  · exact .ahead hr
  · exact carries_lookBehind hr
  · exact (carries_nameUntil _ _ hr).andThen fun name r h => .ahead h
  · exact .ahead hr
  · exact carries_flagsOff _ hr
  · split
    · exact carries_flagsOn _ hr
    · exact .refuse

/-- What a parenthesis opens is the same with the further text. -/
theorem carries_opening (o o' : Nat) (hr : r ≠ ['\\']) :
    Carries Ahead (opening o r) (opening o' (r ++ [')'])) := by
  refine (carries_accept? (by decide) r).bind fun a a' ha => ?_
  cases ha with
  | none => exact .ahead hr
  | some h =>
      exact carries_lexeme? h (fun _ _ => .refuse)
        fun l r h => carries_extension o o' l h

-- ========================================================== repetition

namespace State

theorem carries_upperDigits (lo : Text) (hr : r ≠ ['\\']) :
    Carries Ahead (upperDigits lo r) (upperDigits lo (r ++ [')'])) := by
  refine (carries_accept? (by decide) r).bind fun o o' ho => ?_
  cases ho with
  | none => exact .ahead hr
  | @some r h => exact carries_some?_all (by decide) r

/-- The place of the bounds matters only when they are refused. -/
theorem carries_boundsOf (lo hi : Text) (place place' : Nat) :
    Carries (· = ·) (boundsOf lo hi place) (boundsOf lo hi place') := by
  refine Carries.same.bind fun least least' h => ?_
  subst h
  refine Carries.same.bind fun most most' h => ?_
  subst h
  split
  · exact .refuse
  · exact .ok rfl

/-- Bounds in braces are closed by a brace of their own; braces that are
not stand for themselves in both texts. -/
theorem carries_bounds? (hr : r ≠ ['\\']) :
    Carries Ahead (bounds? r) (bounds? (r ++ [')'])) := by
  have hhead : (r ++ [')']).head? = some '\x7d' ↔ r.head? = some '\x7d' := by
    cases r with
    | nil => decide
    | cons c r => rfl
  unfold bounds?
  by_cases hend : r.head? = some '\x7d'
  · rw [if_pos hend, if_pos (hhead.2 hend)]
    exact .ahead hr
  · rw [if_neg hend, if_neg fun h => hend (hhead.1 h)]
    refine (carries_some?_all (by decide) r).andThen fun lo r₁ h => ?_
    refine (carries_upperDigits _ h).andThen fun hi r₂ h => ?_
    refine (carries_accept? (by decide) r₂).bind fun o o' ho => ?_
    cases ho with
    | none => exact .ahead hr
    | some h =>
        refine (carries_boundsOf _ _ _ _).bind fun b b' hb => ?_
        subst hb
        exact .ahead h

/-- A sign of repetition means the same bounds. -/
theorem carries_quantifier? (c : Char) (hr : r ≠ ['\\']) :
    Carries Ahead (quantifier? c r) (quantifier? c (r ++ [')'])) := by
  unfold quantifier?
  split
  · exact .ahead hr
  · exact .ahead hr
  · exact .ahead hr
  · exact carries_bounds? hr

/-- A parenthesis is no sign of eagerness. -/
theorem carries_appetite (hr : r ≠ ['\\']) :
    Carries Ahead (appetite r) (appetite (r ++ [')'])) := by
  refine (carries_accept? (by decide) r).bind fun o o' ho => ?_
  cases ho with
  | some h => exact .ahead h
  | none =>
      refine (carries_accept? (by decide) r).bind fun o o' ho => ?_
      cases ho with
      | some h => exact .ahead h
      | none => exact .ahead hr

end State

end Highlight.Regex
