/-
Places in a text: row, column and offset, all counted from zero in
characters.

A position is reached by walking: a line feed leads to the start of the
next row, any other character to the next column. `Position.after` walks
over a whole text, and its lemmas say that the way may be cut anywhere
(`after_append`) and that the row and the offset count the line feeds and
the characters passed.

Editors count columns in 16-bit code units. A character beyond the basic
plane takes two units, every other one.
-/
import Highlight.Text.Basic

namespace Highlight

structure Position where
  row : Nat
  col : Nat
  offset : Nat
deriving DecidableEq, Repr

namespace Position

/-- The start of a text. -/
def origin : Position := ⟨0, 0, 0⟩

/-- The position behind one character. -/
def next (p : Position) (c : Char) : Position :=
  if c = '\n' then
    ⟨p.row + 1, 0, p.offset + 1⟩
  else
    ⟨p.row, p.col + 1, p.offset + 1⟩

/-- The position behind a text. -/
def after (p : Position) (t : Text) : Position :=
  t.foldl next p

@[simp] theorem after_nil (p : Position) : p.after [] = p := rfl

@[simp] theorem after_cons (p : Position) (c : Char) (t : Text) :
    p.after (c :: t) = (p.next c).after t := rfl

theorem after_append (p : Position) (s t : Text) :
    p.after (s ++ t) = (p.after s).after t :=
  List.foldl_append

@[simp] theorem offset_after (p : Position) (t : Text) :
    (p.after t).offset = p.offset + t.length := by
  induction t generalizing p with
  | nil => rfl
  | cons c t ih =>
    rw [after_cons, ih, List.length_cons]
    unfold next
    split <;> simp only <;> omega

@[simp] theorem row_after (p : Position) (t : Text) :
    (p.after t).row = p.row + t.lineFeeds := by
  induction t generalizing p with
  | nil => rfl
  | cons c t ih =>
    rw [after_cons, ih]
    unfold next Text.lineFeeds
    split
    · next h => simp only [h, List.count_cons_self]; omega
    · next h => simp [h]

/-- Within a line only the column moves. -/
theorem after_of_not_mem (p : Position) {t : Text} (h : '\n' ∉ t) :
    p.after t = ⟨p.row, p.col + t.length, p.offset + t.length⟩ := by
  induction t generalizing p with
  | nil => rfl
  | cons c t ih =>
    have hc : c ≠ '\n' := fun e => h (by simp [e])
    have ht : '\n' ∉ t := fun m => h (by simp [m])
    rw [after_cons, ih _ ht]
    simp only [next, hc, ↓reduceIte, List.length_cons, mk.injEq, true_and]
    omega

end Position

namespace Text

-- ========================================================== code units

/-- The 16-bit code units that one character takes. -/
def unitsOf (c : Char) : Nat :=
  if c.toNat < 0x10000 then 1 else 2

/-- The length of a text in 16-bit code units. -/
def units16 : Text → Nat
  | [] => 0
  | c :: t => unitsOf c + units16 t

@[simp] theorem units16_nil : units16 [] = 0 := rfl

@[simp] theorem units16_append (s t : Text) :
    units16 (s ++ t) = units16 s + units16 t := by
  induction s with
  | nil => simp
  | cons c s ih => simp [units16, ih, Nat.add_assoc]

theorem unitsOf_pos (c : Char) : 0 < unitsOf c := by
  unfold unitsOf
  split <;> decide

end Text

end Highlight
