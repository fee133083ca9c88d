/-
What a parenthesis opens. Behind a plain one a numbered group begins;
a question mark and what follows it choose one of the other kinds: groups
with a name or with flags of their own, look-arounds, conditions on a
group, references by name, comments, and flags for the whole pattern.

Reading an opening depends on the text alone. Whether the names and
numbers in it are those of groups is decided where groups are known.
-/
import Highlight.Regex.Lexeme
import Highlight.Regex.Flags
import Highlight.Text.Digits
import Highlight.Unicode.Class
import Highlight.Unicode.Identifier

namespace Highlight.Regex

inductive Opening where
  /-- A numbered group, perhaps with a name. -/
  | capture (name : Option Text)
  /-- A group without a number, with flags turned on and off. -/
  | plain (on off : Flags)
  | atomic
  | look (behind negated : Bool)
  /-- A choice by the group that is written here. -/
  | conditional (written : Text)
  /-- A reference to a group by name; it is complete. -/
  | reference (name : Text)
  /-- A comment; it is complete. -/
  | comment
  /-- Flags for the whole pattern; they are complete. -/
  | flags (on : Flags)
deriving DecidableEq, Repr

-- ============================================================ numerals

/-- A row of decimal digits of any script; single underscores may stand
between digits. -/
def groupedDigits? (t : Text) : Option Nat :=
  go true 0 t
where
  /-- A digit has to come next, unless one has just been read. -/
  go (needed : Bool) (n : Nat) : Text → Option Nat
    | [] => if needed then none else some n
    | c :: r =>
      if c = '_' then
        if needed then none else go true n r
      else
        (Unicode.decimal? c.toNat).bind fun d => go false (n * 10 + d) r

/-- A blank that may stand around a number: any but the separators of
information among the control characters. -/
def isPadding (c : Char) : Bool :=
  Unicode.blanks.mem c.toNat && !(0x1C ≤ c.toNat && c.toNat ≤ 0x1F)

/-- The text without the blanks around it. -/
def trimPadding (t : Text) : Text :=
  ((t.dropWhile isPadding).reverse.dropWhile isPadding).reverse

/-- A number that is not negative, with an optional sign and blanks
around it. -/
def wholeNumber? (t : Text) : Option Nat :=
  match trimPadding t with
  | '+' :: ds => digits ds
  | '-' :: ds => (digits ds).filter (· == 0)
  | ds => digits ds
where
  digits (ds : Text) : Option Nat :=
    if (ds.filter (· != '_')).length ≤ maxDigits then groupedDigits? ds
    else none

-- =============================================================== flags

/-- Stops at a character that is no flag: a letter could have been one. -/
def refuseFlag {α : Type} (l : Lexeme) (other : Fault) (r : Text) :
    Except Refusal α :=
  match l with
  | .plain c =>
    refuse (if Unicode.letters.mem c.toNat then .unknownFlag else other)
      (r.length + 1)
  | .escaped _ => refuse other (r.length + 2)

/-- Turns a flag on and reads on to the character that ends the flags to
turn on. -/
def turnOn (on : Flags) (f : Flag) (r : Text) :
    Except Refusal ((Flags × Char) × Text) :=
  let on := on.insert f
  if f = .locale then refuse .localeFlag r.length
  else if f.choosesAlphabet && on.alphabetsClash then
    refuse .alphabetsClash r.length
  else
    match r with
    | [] => refuse .missingFlagEnd 0
    | '\\' :: c :: r => do
      settled r
      refuseFlag (.escaped c) .missingFlagEnd r
    | c :: r => do
      settled r
      if c = ')' ∨ c = '-' ∨ c = ':' then
        .ok ((on, c), r)
      else
        match Flag.ofLetter? c with
        | some g => turnOn on g r
        | none => refuseFlag (.plain c) .missingFlagEnd r

/-- Turns a flag off and reads on to the colon that ends the flags. -/
def turnOff (off : Flags) (f : Flag) (r : Text) :
    Except Refusal (Flags × Text) :=
  let off := off.insert f
  if f.choosesAlphabet then refuse .alphabetOff r.length
  else
    match r with
    | [] => refuse .missingColon 0
    | '\\' :: c :: r => do
      settled r
      refuseFlag (.escaped c) .missingColon r
    | c :: r => do
      settled r
      if c = ':' then
        .ok (off, r)
      else
        match Flag.ofLetter? c with
        | some g => turnOff off g r
        | none => refuseFlag (.plain c) .missingColon r

/-- The flags of a group, from behind the hyphen on. -/
def flagsOff (on : Flags) (r : Text) : Except Refusal (Opening × Text) := do
  match ← lexeme? r with
  | (none, _) => refuse .missingFlag 0
  | (some l, r) =>
    match l with
    | .escaped _ => refuseFlag l .missingFlag r
    | .plain c =>
      match Flag.ofLetter? c with
      | none => refuseFlag l .missingFlag r
      | some f =>
        let (off, r) ← turnOff .none f r
        if off.template then refuse .globalOff (r.length + 1)
        else if on.meets off then refuse .onAndOff (r.length + 1)
        else .ok (.plain on off, r)

/-- Flags, from behind the first of them on. -/
def flagsOn (f : Flag) (r : Text) : Except Refusal (Opening × Text) := do
  let ((on, closing), r) ← turnOn .none f r
  if closing = ')' then .ok (.flags on, r)
  else if on.template then refuse .globalOn (r.length + 1)
  else if closing = '-' then flagsOff on r
  else .ok (.plain on .none, r)

-- ============================================================== groups

/-- A group name, which has to be an identifier. -/
def groupName (closing : Char) (r : Text) :
    Except Refusal (Text × Text) := do
  let (name, r) ← nameUntil closing "group name" r
  if Unicode.isIdentifier name then .ok (name, r)
  else refuse (.badName name) (r.length + name.length + 1)

/-- Stops at a kind of group that does not exist. -/
def refuseExtension {α : Type} (written : Text) (r : Text) :
    Except Refusal α :=
  refuse (.unknownExtension written) (r.length + written.length)

/-- A group or a reference by name, from behind the letter on. -/
def named (r : Text) : Except Refusal (Opening × Text) := do
  match ← accept? '<' r with
  | some r =>
    let (name, r) ← groupName '>' r
    .ok (.capture (some name), r)
  | none =>
    match ← accept? '=' r with
    | some r =>
      let (name, r) ← groupName ')' r
      .ok (.reference name, r)
    | none =>
      match ← lexeme? r with
      | (none, _) => refuse .cutShort 0
      | (some l, r) => refuseExtension ('?' :: 'P' :: l.text) r

/-- Looking behind, from behind the angle bracket on. -/
def lookBehind (r : Text) : Except Refusal (Opening × Text) := do
  match ← lexeme? r with
  | (none, _) => refuse .cutShort 0
  | (some l, r) =>
    if l = .plain '=' then .ok (.look true false, r)
    else if l = .plain '!' then .ok (.look true true, r)
    else refuseExtension ('?' :: '<' :: l.text) r

/-- What the character behind the question mark chooses. -/
def extension (opened : Nat) (l : Lexeme) (r : Text) :
    Except Refusal (Opening × Text) :=
  match l with
  | .escaped _ => refuseExtension ('?' :: l.text) r
  | .plain 'P' => named r
  | .plain ':' => .ok (.plain .none .none, r)
  | .plain '#' => do
    let r ← skipComment opened r
    .ok (.comment, r)
  | .plain '=' => .ok (.look false false, r)
  | .plain '!' => .ok (.look false true, r)
  | .plain '<' => lookBehind r
  | .plain '(' => do
    let (written, r) ← nameUntil ')' "group name" r
    .ok (.conditional written, r)
  | .plain '>' => .ok (.atomic, r)
  | .plain '-' => flagsOff .none r
  | .plain c =>
    match Flag.ofLetter? c with
    | some f => flagsOn f r
    | none => refuseExtension ['?', c] r

/-- Reads on behind a parenthesis that was opened at the given place. -/
def opening (opened : Nat) (r : Text) :
    Except Refusal (Opening × Text) := do
  match ← accept? '?' r with
  | none => .ok (.capture none, r)
  | some r =>
    match ← lexeme? r with
    | (none, _) => refuse .cutShort 0
    | (some l, r) => extension opened l r

-- ============================================== reading takes text away

theorem yields_refuseFlag {α : Type} {P : α → Prop} (l : Lexeme)
    (other : Fault) (r : Text) : Yields (refuseFlag l other r) P := by
  cases l <;> exact .refuse

theorem yields_turnOn (on : Flags) (f : Flag) (r : Text) :
    Yields (turnOn on f r) (Within r.length) := by
  fun_induction turnOn on f r with
  | case1 => exact .refuse
  | case2 => exact .refuse
  | case3 => exact .refuse
  | case4 => exact .settled (yields_refuseFlag _ _ _)
  | case5 on f on' _ _ c r _ ih =>
    refine .settled ?_
    split
    · exact .ok (by simp [Within])
    · split
      · intro v h
        have := ih _ v h
        simp only [Within, List.length_cons] at this ⊢
        omega
      · exact yields_refuseFlag _ _ _

theorem yields_turnOff (off : Flags) (f : Flag) (r : Text) :
    Yields (turnOff off f r) (Within r.length) := by
  fun_induction turnOff off f r with
  | case1 => exact .refuse
  | case2 => exact .refuse
  | case3 => exact .settled (yields_refuseFlag _ _ _)
  | case4 off f off' _ c r _ ih =>
    refine .settled ?_
    split
    · exact .ok (by simp [Within])
    · split
      · intro v h
        have := ih _ v h
        simp only [Within, List.length_cons] at this ⊢
        omega
      · exact yields_refuseFlag _ _ _

theorem yields_flagsOff (on : Flags) (r : Text) :
    Yields (flagsOff on r) (Within r.length) := by
  refine (yields_lexeme? r).bind fun v hv => ?_
  split
  · exact .refuse
  · split
    · exact yields_refuseFlag _ _ _
    · split
      · exact yields_refuseFlag _ _ _
      · refine (yields_turnOff _ _ _).bind fun w hw => ?_
        dsimp only
        split
        · exact .refuse
        · split
          · exact .refuse
          · exact .ok (Nat.le_trans hw hv.1)

theorem yields_flagsOn (f : Flag) (r : Text) :
    Yields (flagsOn f r) (Within r.length) := by
  refine (yields_turnOn _ _ _).bind fun v hv => ?_
  dsimp only
  split
  · exact .ok hv
  · split
    · exact .refuse
    · split
      · exact fun w hw => Nat.le_trans (yields_flagsOff _ _ w hw) hv
      · exact .ok hv

theorem yields_groupName (closing : Char) (r : Text) :
    Yields (groupName closing r) (Within r.length) := by
  refine (yields_nameUntil _ _ _).bind fun v hv => ?_
  dsimp only
  split
  · exact .ok hv
  · exact .refuse

theorem yields_named (r : Text) :
    Yields (named r) (Within r.length) := by
  refine (yields_accept? '<' r).bind fun o ho => ?_
  split
  · exact (yields_groupName _ _).bind fun v hv =>
      .ok (Nat.le_trans hv (Nat.le_of_lt (ho _ rfl)))
  · refine (yields_accept? '=' r).bind fun o ho => ?_
    split
    · exact (yields_groupName _ _).bind fun v hv =>
        .ok (Nat.le_trans hv (Nat.le_of_lt (ho _ rfl)))
    · refine (yields_lexeme? r).bind fun v hv => ?_
      split
      · exact .refuse
      · exact .refuse

theorem yields_lookBehind (r : Text) :
    Yields (lookBehind r) (Within r.length) := by
  refine (yields_lexeme? r).bind fun v hv => ?_
  split
  · exact .refuse
  · split
    · exact .ok hv.1
    · split
      · exact .ok hv.1
      · exact .refuse

theorem yields_extension (opened : Nat) (l : Lexeme) (r : Text) :
    Yields (extension opened l r) (Within r.length) := by
  unfold extension
  split
  · exact .refuse
  · exact yields_named r
  · exact .ok (Nat.le_refl _)
  · exact (yields_skipComment opened r).bind fun v hv => .ok hv
  · exact .ok (Nat.le_refl _)
  · exact .ok (Nat.le_refl _)
  · exact yields_lookBehind r
  · exact (yields_nameUntil _ _ _).bind fun v hv => .ok hv
  · exact .ok (Nat.le_refl _)
  · exact yields_flagsOff _ r
  · split
    · exact yields_flagsOn _ r
    · exact .refuse

theorem yields_opening (opened : Nat) (r : Text) :
    Yields (opening opened r) (Within r.length) := by
  refine (yields_accept? '?' r).bind fun o ho => ?_
  split
  · exact .ok (Nat.le_refl _)
  · next r₁ =>
    refine (yields_lexeme? r₁).bind fun v hv => ?_
    split
    · exact .refuse
    · intro w hw
      exact Nat.le_trans (yields_extension _ _ _ w hw)
        (Nat.le_trans hv.1 (Nat.le_of_lt (ho _ rfl)))

end Highlight.Regex
