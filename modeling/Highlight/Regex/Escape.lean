/-
What a backslash and the character behind it stand for, and bracketed
sets, whose members may be escaped as well.

Inside brackets an escape is a character or a class. Outside it may also
be a condition on the place or a reference to a group, and a backslash
with digits is read as an octal code or as a group's number: three octal
digits, or a leading zero, make a code.
-/
import Highlight.Regex.Lexeme
import Highlight.Regex.Node
import Highlight.Unicode.Name

namespace Highlight.Regex

/-- The characters that have an escape letter of their own. -/
def control? : Char → Option Nat
  | 'a' => some 0x07
  | 'f' => some 0x0C
  | 'n' => some 0x0A
  | 'r' => some 0x0D
  | 't' => some 0x09
  | 'v' => some 0x0B
  | '\\' => some 0x5C
  | _ => none

/-- The classes that have an escape letter; a capital negates. -/
def category? : Char → Option (Category × Bool)
  | 'd' => some (.digit, false)
  | 'D' => some (.digit, true)
  | 's' => some (.space, false)
  | 'S' => some (.space, true)
  | 'w' => some (.word, false)
  | 'W' => some (.word, true)
  | _ => none

/-- The conditions that have an escape letter. -/
def assertion? (ascii : Bool) : Char → Option Assertion
  | 'A' => some .start
  | 'b' => some (.boundary ascii)
  | 'B' => some (.noBoundary ascii)
  | 'Z' => some .finish
  | _ => none

/-- A code of exactly `width` hexadecimal digits. -/
def hexCode (letter : Char) (width : Nat) (r : Text) :
    Except Refusal (Nat × Text) := do
  let (ds, r) ← some? isHexDigit width r
  let written := '\\' :: letter :: ds
  let fromEnd := r.length + written.length
  let n := numeral 16 ds
  if ds.length < width then refuse (.shortEscape written) fromEnd
  else if 0x80000000 ≤ n then .error .overflow
  else if 0x10FFFF < n then refuse (.badEscape written) fromEnd
  else .ok (n, r)

/-- A character by its name. -/
def namedCode (r : Text) : Except Refusal (Nat × Text) := do
  match ← accept? '\x7b' r with
  | none => refuse .unnamedCharacter r.length
  | some r =>
    let (name, r) ← nameUntil '\x7d' "character name" r
    match Unicode.codeOfName? name with
    | some n => .ok (n, r)
    | none => refuse (.unknownCharacter name) (r.length + name.length + 4)

/-- The escape letters that are followed by a code. -/
def code? (letter : Char) (r : Text) :
    Option (Except Refusal (Nat × Text)) :=
  match letter with
  | 'x' => some (hexCode 'x' 2 r)
  | 'u' => some (hexCode 'u' 4 r)
  | 'U' => some (hexCode 'U' 8 r)
  | 'N' => some (namedCode r)
  | _ => none

/-- Checks the size of an octal code that ends before `r`. -/
def octalCode (ds r : Text) : Except Refusal (Nat × Text) :=
  let n := numeral 8 ds
  if 0o377 < n then
    refuse (.bigOctal ('\\' :: ds)) (r.length + ds.length + 1)
  else
    .ok (n, r)

/-- A character that stands for itself when escaped; a letter does not. -/
def selfEscape (c : Char) (r : Text) : Except Refusal (Nat × Text) :=
  if c.isAlphanum then refuse (.badEscape ['\\', c]) (r.length + 2)
  else .ok (c.toNat, r)

-- ==================================================== outside brackets

/-- What an escape outside brackets stands for. -/
inductive Escaped where
  | char (n : Nat)
  | category (c : Category) (negated : Bool)
  | assertion (a : Assertion)
  | reference (number : Nat)
deriving DecidableEq, Repr

/-- A backslash and a digit other than zero. -/
def numbered (d : Char) (r : Text) :
    Except Refusal (Escaped × Text) := do
  let (second, r) ← some? Char.isDigit 1 r
  if isOctalDigit d && second.all isOctalDigit && !second.isEmpty then
    let (third, r) ← some? isOctalDigit 1 r
    if third.isEmpty then
      .ok (.reference (numeral 10 (d :: second)), r)
    else
      let (n, r) ← octalCode (d :: second ++ third) r
      .ok (.char n, r)
  else
    .ok (.reference (numeral 10 (d :: second)), r)

/-- Reads on after a backslash and `c`. -/
def escape (ascii : Bool) (c : Char) (r : Text) :
    Except Refusal (Escaped × Text) :=
  match category? c, assertion? ascii c, control? c, code? c r with
  | some (k, negated), _, _, _ => .ok (.category k negated, r)
  | _, some a, _, _ => .ok (.assertion a, r)
  | _, _, some n, _ => .ok (.char n, r)
  | _, _, _, some reading => do
    let (n, r) ← reading
    .ok (.char n, r)
  | none, none, none, none =>
    if c = '0' then do
      let (ds, r) ← some? isOctalDigit 2 r
      .ok (.char (numeral 8 ds), r)
    else if c.isDigit then
      numbered c r
    else do
      let (n, r) ← selfEscape c r
      .ok (.char n, r)

-- ===================================================== inside brackets

/-- Reads on after a backslash and `c` inside brackets. -/
def memberEscape (c : Char) (r : Text) :
    Except Refusal (Member × Text) :=
  match category? c, control? c, code? c r with
  | some (k, negated), _, _ => .ok (.category k negated, r)
  | _, some n, _ => .ok (.char n, r)
  | _, _, some reading => do
    let (n, r) ← reading
    .ok (.char n, r)
  | none, none, none =>
    if c = 'b' then
      .ok (.char 0x08, r)
    else if isOctalDigit c then do
      let (ds, r) ← some? isOctalDigit 2 r
      let (n, r) ← octalCode (c :: ds) r
      .ok (.char n, r)
    else do
      let (n, r) ← selfEscape c r
      .ok (.char n, r)

/-- One member, from its first lexeme on. -/
def member (l : Lexeme) (r : Text) : Except Refusal (Member × Text) :=
  match l with
  | .plain c => .ok (.char c.toNat, r)
  | .escaped c => memberEscape c r

/-- The range between two members, which must be characters in order. -/
def rangeOf (lo hi : Member) : Option Member :=
  match lo, hi with
  | .char a, .char b => if a ≤ b then some (.range a b) else none
  | _, _ => none

/-- The next members of a set, or nothing more when it is closed. The
bracket that closes it is a member as long as the set is empty. A hyphen
between two members makes a range, one before the bracket is itself. -/
def members (opened : Nat) (fresh : Bool) (r : Text) :
    Except Refusal ((List Member × Bool) × Text) := do
  match ← lexeme? r with
  | (none, _) => refuse .openSet opened
  | (some l, r) =>
    if l = .plain ']' && !fresh then
      .ok (([], true), r)
    else
      let (lo, r) ← member l r
      match ← accept? '-' r with
      | none => .ok (([lo], false), r)
      | some r =>
        match ← lexeme? r with
        | (none, _) => refuse .openSet opened
        | (some l', r) =>
          if l' = .plain ']' then
            .ok (([lo, .char '-'.toNat], true), r)
          else
            let (hi, r) ← member l' r
            match rangeOf lo hi with
            | some range => .ok (([range], false), r)
            | none =>
              refuse (.badRange l.text l'.text)
                (r.length + l.text.length + 1 + l'.text.length)

-- ============================================== reading takes text away

theorem yields_hexCode (letter : Char) (width : Nat) (r : Text) :
    Yields (hexCode letter width r) (Within r.length) := by
  refine (yields_some? _ _ r).bind fun v hv => ?_
  dsimp only
  split
  · exact .refuse
  · split
    · exact .error
    · split
      · exact .refuse
      · exact .ok hv

theorem yields_namedCode (r : Text) :
    Yields (namedCode r) (Within r.length) := by
  refine (yields_accept? _ r).bind fun o ho => ?_
  split
  · exact .refuse
  · next r₁ =>
    refine (yields_nameUntil _ _ r₁).bind fun v hv => ?_
    dsimp only
    split
    · exact .ok (Nat.le_trans hv (Nat.le_of_lt (ho r₁ rfl)))
    · exact .refuse

theorem yields_code? {letter : Char} {r : Text}
    {m : Except Refusal (Nat × Text)} (h : code? letter r = some m) :
    Yields m (Within r.length) := by
  unfold code? at h
  split at h <;> cases h
  · exact yields_hexCode _ _ r
  · exact yields_hexCode _ _ r
  · exact yields_hexCode _ _ r
  · exact yields_namedCode r

theorem yields_octalCode (ds r : Text) :
    Yields (octalCode ds r) (Within r.length) := by
  unfold octalCode
  dsimp only
  split
  · exact .refuse
  · exact .ok (Nat.le_refl _)

theorem yields_selfEscape (c : Char) (r : Text) :
    Yields (selfEscape c r) (Within r.length) := by
  unfold selfEscape
  split
  · exact .refuse
  · exact .ok (Nat.le_refl _)

theorem yields_numbered (d : Char) (r : Text) :
    Yields (numbered d r) (Within r.length) := by
  refine (yields_some? _ _ r).bind fun v hv => ?_
  dsimp only
  split
  · refine (yields_some? _ _ v.2).bind fun w hw => ?_
    have hw' := Nat.le_trans hw hv
    split
    · exact .ok hw'
    · exact (yields_octalCode _ _).bind fun x hx =>
        .ok (Nat.le_trans hx hw')
  · exact .ok hv

theorem yields_escape (ascii : Bool) (c : Char) (r : Text) :
    Yields (escape ascii c r) (Within r.length) := by
  unfold escape
  split
  · exact .ok (Nat.le_refl _)
  · exact .ok (Nat.le_refl _)
  · exact .ok (Nat.le_refl _)
  · exact (yields_code? ‹_›).bind fun v hv => .ok hv
  · split
    · exact (yields_some? _ _ r).bind fun v hv => .ok hv
    · split
      · exact yields_numbered c r
      · exact (yields_selfEscape c r).bind fun v hv => .ok hv

theorem yields_memberEscape (c : Char) (r : Text) :
    Yields (memberEscape c r) (Within r.length) := by
  unfold memberEscape
  split
  · exact .ok (Nat.le_refl _)
  · exact .ok (Nat.le_refl _)
  · exact (yields_code? ‹_›).bind fun v hv => .ok hv
  · split
    · exact .ok (Nat.le_refl _)
    · split
      · refine (yields_some? _ _ r).bind fun v hv => ?_
        exact (yields_octalCode _ _).bind fun w hw =>
          .ok (Nat.le_trans hw hv)
      · exact (yields_selfEscape c r).bind fun v hv => .ok hv

theorem yields_member (l : Lexeme) (r : Text) :
    Yields (member l r) (Within r.length) := by
  cases l with
  | plain c => exact .ok (Nat.le_refl _)
  | escaped c => exact yields_memberEscape c r

theorem yields_members (opened : Nat) (fresh : Bool) (r : Text) :
    Yields (members opened fresh r) fun v =>
      v.2.length < r.length := by
  refine (yields_lexeme? r).bind fun v hv => ?_
  split
  · exact .refuse
  · next l r₁ =>
    replace hv := hv.2 nofun
    split
    · exact .ok hv
    · refine (yields_member l r₁).bind fun w hw => ?_
      have hw' := Nat.lt_of_le_of_lt hw hv
      refine (yields_accept? '-' w.2).bind fun o ho => ?_
      split
      · exact .ok hw'
      · next r₂ =>
        replace ho := Nat.lt_trans (ho r₂ rfl) hw'
        refine (yields_lexeme? r₂).bind fun x hx => ?_
        split
        · exact .refuse
        · next l' r₃ =>
          replace hx := Nat.lt_trans (hx.2 nofun) ho
          split
          · exact .ok hx
          · refine (yields_member l' r₃).bind fun y hy => ?_
            dsimp only
            split
            · exact .ok (Nat.lt_of_le_of_lt hy hx)
            · exact .refuse

-- =========================================================== whole sets

/-- The members of a set up to the bracket that closes it. -/
def allMembers (opened : Nat) (seen : List Member) (r : Text) :
    Except Refusal (List Member × Text) :=
  match h : members opened seen.isEmpty r with
  | .error e => .error e
  | .ok ((ms, closed), r') =>
    have : r'.length < r.length := yields_members _ _ r _ h
    if closed then .ok (seen ++ ms, r')
    else allMembers opened (seen ++ ms) r'
termination_by r.length

/-- A bracketed set, from behind the opening bracket on. -/
def bracketed (fold : Fold) (ascii : Bool) (opened : Nat) (r : Text) :
    Except Refusal (CharSet × Text) := do
  match ← accept? '^' r with
  | some r =>
    let (ms, r) ← allMembers opened [] r
    .ok (CharSet.ofMembers fold ascii true ms, r)
  | none =>
    let (ms, r) ← allMembers opened [] r
    .ok (CharSet.ofMembers fold ascii false ms, r)

theorem yields_allMembers (opened : Nat) (seen : List Member) (r : Text) :
    Yields (allMembers opened seen r) (Within r.length) := by
  fun_induction allMembers opened seen r with
  | case1 => exact .error
  | case2 seen r ms r' _ h =>
    exact .ok (Nat.le_of_lt h)
  | case3 seen r ms closed r' _ h _ ih =>
    exact fun v hv => Nat.le_trans (ih v hv) (Nat.le_of_lt h)

theorem yields_bracketed (fold : Fold) (ascii : Bool) (opened : Nat)
    (r : Text) :
    Yields (bracketed fold ascii opened r) (Within r.length) := by
  refine (yields_accept? '^' r).bind fun o ho => ?_
  split
  · next r₁ =>
    refine (yields_allMembers opened [] r₁).bind fun v hv => ?_
    exact .ok (Nat.le_trans hv (Nat.le_of_lt (ho r₁ rfl)))
  · exact (yields_allMembers opened [] r).bind fun v hv => .ok hv

end Highlight.Regex
