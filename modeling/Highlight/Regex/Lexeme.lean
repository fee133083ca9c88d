/-
The smallest pieces of a pattern's text. A backslash and the character
behind it are one piece, every other character is a piece of its own.

Places are counted from the end of the pattern: reading never looks at
what lies behind it, so a piece of a pattern reads the same wherever it
stands, and only the final report turns the count around.

# The lone backslash

A backslash that ends the pattern is refused as soon as everything before
it has been read, before anything is made of what was read last. Each
reader therefore checks that what it leaves is `settled`.
-/
import Highlight.Regex.Fault

namespace Highlight.Regex

/-- Why reading stops, with places counted from the end. -/
inductive Refusal where
  | fault (f : Fault) (fromEnd : Option Nat)
  | flagsClash
  | overflow
  | longCount
  | farLookBehind
  | tooDeep
deriving DecidableEq, Repr

/-- The same reason with places counted from the start of a pattern of
the given length. -/
def Refusal.rejection (length : Nat) : Refusal → Rejection
  | .fault f fromEnd => .fault f (fromEnd.map (length - ·))
  | .flagsClash => .flagsClash
  | .overflow => .overflow
  | .longCount => .longCount
  | .farLookBehind => .farLookBehind
  | .tooDeep => .tooDeep

/-- Stops at a place counted from the end. -/
def refuse {α : Type} (f : Fault) (fromEnd : Nat) : Except Refusal α :=
  .error (.fault f (some fromEnd))

/-- Whatever is read has the property. -/
def Yields {α : Type} (m : Except Refusal α) (P : α → Prop) : Prop :=
  ∀ v, m = .ok v → P v

/-- Checks that no lone backslash is left. -/
def settled (r : Text) : Except Refusal Unit :=
  if r = ['\\'] then refuse .loneBackslash 1 else .ok ()

-- ============================================================ lexemes

inductive Lexeme where
  | plain (c : Char)
  | escaped (c : Char)
deriving DecidableEq, Repr

/-- How a lexeme is written. -/
def Lexeme.text : Lexeme → Text
  | .plain c => [c]
  | .escaped c => ['\\', c]

/-- The next lexeme, if the pattern goes on. -/
def lexeme? : Text → Except Refusal (Option Lexeme × Text)
  | [] => .ok (none, [])
  | '\\' :: c :: r => do
    settled r
    .ok (some (.escaped c), r)
  | c :: r => do
    settled r
    .ok (some (.plain c), r)

/-- What is left after a given character, if it comes next. -/
def accept? (c : Char) : Text → Except Refusal (Option Text)
  | [] => .ok none
  | d :: r =>
    if d = c then do
      settled r
      .ok (some r)
    else
      .ok none

/-- At most so many characters of a kind. -/
def some? (kind : Char → Bool) (most : Nat) (r : Text) :
    Except Refusal (Text × Text) := do
  let taken := (r.take most).takeWhile kind
  let left := r.drop taken.length
  settled left
  .ok (taken, left)

/-- A name up to a closing character. -/
def nameUntil (closing : Char) (what : String) (r : Text) :
    Except Refusal (Text × Text) :=
  go [] r
where
  go (seen : Text) : Text → Except Refusal (Text × Text)
    | [] =>
      if seen.isEmpty then refuse (.missingName what) 0
      else refuse (.openName closing) seen.length
    | '\\' :: c :: r => do
      settled r
      go (c :: '\\' :: seen) r
    | c :: r => do
      settled r
      if c = closing then
        if seen.isEmpty then refuse (.missingName what) (r.length + 1)
        else .ok (seen.reverse, r)
      else
        go (c :: seen) r

/-- Skips the rest of a line. -/
def skipLine : Text → Except Refusal Text
  | [] => .ok []
  | '\\' :: _ :: r => do
    settled r
    skipLine r
  | c :: r => do
    settled r
    if c = '\n' then .ok r else skipLine r

/-- Skips a comment that was opened at the given place. -/
def skipComment (opened : Nat) : Text → Except Refusal Text
  | [] => refuse .openComment opened
  | '\\' :: _ :: r => do
    settled r
    skipComment opened r
  | c :: r => do
    settled r
    if c = ')' then .ok r else skipComment opened r

-- ============================================================ numerals

/-- The value of a row of digits in a base. -/
def numeral (base : Nat) (ds : Text) : Nat :=
  ds.foldl (fun n d => n * base + digitValue d) 0
where
  digitValue (d : Char) : Nat :=
    if d.isDigit then d.toNat - '0'.toNat
    else if d.isLower then d.toNat - 'a'.toNat + 10
    else d.toNat - 'A'.toNat + 10

def isOctalDigit (c : Char) : Bool :=
  '0' ≤ c && c ≤ '7'

def isHexDigit (c : Char) : Bool :=
  c.isDigit || ('a' ≤ c && c ≤ 'f') || ('A' ≤ c && c ≤ 'F')

-- ============================================== reading takes text away

/-- What was read after a check passed the check. -/
theorem of_settled {α : Type} {r : Text} {f : Unit → Except Refusal α}
    {a : α} (h : (settled r >>= f) = .ok a) : f () = .ok a := by
  unfold settled refuse at h
  split at h
  · cases h
  · exact h

/-- Behind a closing parenthesis no lone backslash is left. -/
theorem append_parenthesis_ne (r : Text) : r ++ [')'] ≠ ['\\'] := by
  intro h
  have hlast := congrArg List.getLast? h
  rw [List.getLast?_concat] at hlast
  cases hlast

namespace Yields

variable {α β : Type} {P Q : α → Prop}

theorem ok {v : α} (h : P v) : Yields (.ok v) P := by
  intro w e
  cases e
  exact h

theorem error {e : Refusal} : Yields (.error e) P := nofun

theorem refuse {f : Fault} {n : Nat} : Yields (refuse f n) P := nofun

theorem bind {m : Except Refusal α} {f : α → Except Refusal β}
    {R : β → Prop} (hm : Yields m P) (hf : ∀ v, P v → Yields (f v) R) :
    Yields (m >>= f) R := by
  cases m with
  | error e => exact nofun
  | ok v => exact fun w h => hf v (hm v rfl) w h

theorem settled {r : Text} {f : Unit → Except Refusal α}
    (h : Yields (f ()) P) : Yields (settled r >>= f) P :=
  fun v e => h v (of_settled e)

end Yields

/-- What is left is shorter than `n` characters or as long. -/
def Within {α : Type} (n : Nat) (v : α × Text) : Prop :=
  v.2.length ≤ n

theorem yields_lexeme? (r : Text) :
    Yields (lexeme? r) fun v =>
      v.2.length ≤ r.length ∧ (v.1 ≠ none → v.2.length < r.length) := by
  unfold lexeme?
  split
  · exact .ok (by simp)
  · refine .settled (.ok ?_)
    simp only [List.length_cons]
    omega
  · refine .settled (.ok ?_)
    simp only [List.length_cons]
    omega

theorem yields_accept? (c : Char) (r : Text) :
    Yields (accept? c r) fun o => ∀ r', o = some r' →
      r'.length < r.length := by
  unfold accept?
  split
  · exact .ok (by simp)
  · split
    · refine .settled (.ok ?_)
      intro r' h
      cases h
      simp
    · exact .ok (by simp)

theorem yields_some? (kind : Char → Bool) (most : Nat) (r : Text) :
    Yields (some? kind most r) (Within r.length) := by
  refine .settled (.ok ?_)
  simp [Within]

theorem yields_nameUntil (closing : Char) (what : String) (r : Text) :
    Yields (nameUntil closing what r) (Within r.length) := by
  suffices ∀ seen, Yields (nameUntil.go closing what seen r)
      (Within r.length) from this []
  intro seen
  fun_induction nameUntil.go closing what seen r with
  | case1 => exact .refuse
  | case2 => exact .refuse
  | case3 seen c r ih =>
    refine .settled fun v h => ?_
    have := ih v h
    simp only [Within, List.length_cons] at this ⊢
    omega
  | case4 seen c r _ ih =>
    refine .settled ?_
    split
    · split
      · exact .refuse
      · exact .ok (by simp [Within])
    · intro v h
      have := ih v h
      simp only [Within, List.length_cons] at this ⊢
      omega

theorem yields_skipLine (r : Text) :
    Yields (skipLine r) fun r' => r'.length ≤ r.length := by
  fun_induction skipLine r with
  | case1 => exact .ok (by simp)
  | case2 c r ih =>
    refine .settled fun v h => ?_
    have := ih v h
    simp only [List.length_cons]
    omega
  | case3 c r _ ih =>
    refine .settled ?_
    split
    · exact .ok (by simp)
    · intro v h
      have := ih v h
      simp only [List.length_cons]
      omega

theorem yields_skipComment (opened : Nat) (r : Text) :
    Yields (skipComment opened r) fun r' => r'.length ≤ r.length := by
  fun_induction skipComment opened r with
  | case1 => exact .refuse
  | case2 c r ih =>
    refine .settled fun v h => ?_
    have := ih v h
    simp only [List.length_cons]
    omega
  | case3 c r _ ih =>
    refine .settled ?_
    split
    · exact .ok (by simp)
    · intro v h
      have := ih v h
      simp only [List.length_cons]
      omega

end Highlight.Regex
