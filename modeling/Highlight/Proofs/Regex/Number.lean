/-
What the pattern for numbers takes, read off the text from left to right
(`numberLength?`).

A number is hexadecimal, or it has digits and perhaps a fraction behind
them, or it is a point with digits behind it. The pattern tries these in
turn, and within each a match might still give back a sign, some digits or
a fraction. It never does: where a sign stands, neither a digit nor a point
does, and what may follow the digits may also be missing. So the first end
of each part is the one that counts (`matchLength?_number`).
-/
import Highlight.Proofs.Regex.Choice

namespace Highlight

namespace Regex

-- ========================================================== vocabulary

/-- The length of all characters of a kind at the start of a text, if there
is one. -/
def runLength? (q : Char → Bool) (t : Text) : Option Nat :=
  if t.head?.any q then some (t.takeWhile q).length else none

/-- The length of the sign at the start of a text. -/
def signLength (t : Text) : Nat :=
  if t.head? = some '-' then 1 else 0

/-- The length of a point with the digits behind it. -/
def fractionLength (t : Text) : Nat :=
  if t.head? = some '.' then 1 + ((t.drop 1).takeWhile Char.isDigit).length
  else 0

/-- The length of a hexadecimal number at the start of a text. -/
def hexLength? (t : Text) : Option Nat :=
  if "0x".toList.isPrefixOf t then
    (runLength? isHexDigit (t.drop 2)).map (2 + ·)
  else none

/-- The length of a number with digits before the point. -/
def decimalLength? (t : Text) : Option Nat :=
  let sign := signLength t
  (runLength? Char.isDigit (t.drop sign)).map fun n =>
    sign + (n + fractionLength (t.drop (sign + n)))

/-- The length of a number that begins with the point. -/
def pointLength? (t : Text) : Option Nat :=
  let sign := signLength t
  if (t.drop sign).head? = some '.' then
    (runLength? Char.isDigit (t.drop (sign + 1))).map (sign + 1 + ·)
  else none

/-- The length of the number at the start of a text. -/
def numberLength? (t : Text) : Option Nat :=
  (hexLength? t).or ((decimalLength? t).or (pointLength? t))

namespace Node

/-- A run of decimal digits. -/
def digits (least : Nat) : Node :=
  .span .greedy least none (.listed [.range 48 57] false .exact false)

/-- A node behind an optional sign. -/
def signed (n : Node) : Node :=
  .seq (.span .greedy 0 (some 1) (.char .exact '-'.toNat)) n

/-- A point and further digits, which may be missing. -/
def fraction : Node :=
  .loop .greedy 0 (some 1) (.group 1 (.seq (.char '.') (.digits 0)))

/-- The mark of hexadecimal numbers and their digits. -/
def hex : Node :=
  .ofList ("0x".toList.map char
    ++ [.span .greedy 1 none
      (.listed [.range 48 57, .range 97 102, .range 65 70] false .exact
        false)])

/-- The tree of the pattern for numbers. -/
def number : Node :=
  .alt .hex
    (.alt (.signed (.seq (.digits 1) .fraction))
      (.alt (.signed (.seq (.char '.') (.digits 1))) .fail))

end Node

-- =============================================================== digits

/-- The set of the pattern has the ASCII digits alone. -/
theorem mem_digits :
    (CharSet.listed [.range 48 57] false .exact false).mem
      = Char.isDigit := by
  funext c
  rw [CharSet.mem_listed_exact, Bool.bne_false]
  simp only [List.any_cons, List.any_nil, Bool.or_false, Member.mem]
  rfl

/-- Its set of hexadecimal digits has letters of both cases. -/
theorem mem_hexDigits :
    (CharSet.listed [.range 48 57, .range 97 102, .range 65 70] false .exact
      false).mem = isHexDigit := by
  funext c
  rw [CharSet.mem_listed_exact, Bool.bne_false]
  simp only [List.any_cons, List.any_nil, Bool.or_false, Member.mem]
  rw [← Bool.or_assoc]
  rfl

-- ================================================================= ends

theorem Spot.after_skip (s : Spot) (n : Nat) :
    (s.skip n).after = s.after.drop n := rfl

/-- The first end of a sequence whose second part always has one. -/
theorem head?_flatMap_of_ne_nil {l : List Spot} {e : Spot → List Spot}
    (he : ∀ u ∈ l, e u ≠ []) :
    (l.flatMap e).head? = l.head?.bind fun u => (e u).head? := by
  cases l with
  | nil => rfl
  | cons u l =>
      rw [List.flatMap_cons, List.head?_append_of_ne_nil _
        (he u List.mem_cons_self)]
      rfl

/-- A run of digits prefers to take them all. -/
theorem head?_ends_digits_one (s : Spot) :
    ((Node.digits 1).ends s).head?
      = (runLength? Char.isDigit s.after).map s.skip := by
  show (spanEnds .greedy 1 none _ s).head? = _
  rw [Spot.head?_spanEnds_one, mem_digits]
  unfold runLength?
  split <;> rfl

/-- A part that cannot begin with a sign is tried behind the sign only, if
there is one. -/
theorem ends_signed {n : Node}
    (hn : ∀ u : Spot, u.after.head? = some '-' → n.ends u = []) (s : Spot) :
    (Node.signed n).ends s = n.ends (s.skip (signLength s.after)) := by
  have hreach : s.reach (.char .exact '-'.toNat) 1
      = s :: (Node.char '-').ends s := by
    unfold Spot.reach Node.char Node.ends
    cases s.step? (.char .exact '-'.toNat) <;> rfl
  show ((s.reach (.char .exact '-'.toNat) 1).reverse).flatMap n.ends = _
  rw [hreach, ends_char]
  unfold signLength
  by_cases hsign : s.after.head? = some '-'
  · rw [if_pos hsign, if_pos hsign]
    show n.ends (s.skip 1) ++ (n.ends s ++ []) = _
    rw [hn s hsign, List.append_nil, List.append_nil]
  · rw [if_neg hsign, if_neg hsign, s.skip_zero]
    exact List.append_nil _

/-- A fraction is taken if there is one. -/
theorem head?_ends_fraction (s : Spot) :
    (Node.fraction.ends s).head?
      = some (s.skip (fractionLength s.after)) := by
  have hends : Node.fraction.ends s
      = ((Node.char '.').ends s).flatMap (Node.digits 0).ends ++ [s] := by
    show greedyEnds _ 1 none s = _
    rw [greedyEnds, if_neg (Option.some_ne_none _).symm]
    congr 1
    exact List.flatMap_singleton' _
  rw [hends, ends_char]
  unfold fractionLength
  by_cases hpoint : s.after.head? = some '.'
  · rw [if_pos hpoint, if_pos hpoint, List.flatMap_singleton]
    have hhead := Spot.head?_spanEnds
      (.listed [.range 48 57] false .exact false) (s.skip 1)
    rw [mem_digits, Spot.skip_skip] at hhead
    rw [List.head?_append, show ((Node.digits 0).ends (s.skip 1)).head? = _
      from hhead]
    rfl
  · rw [if_neg hpoint, if_neg hpoint, s.skip_zero]
    rfl

/-- Digits, and a fraction if there is one. -/
theorem head?_ends_decimal (s : Spot) :
    ((Node.signed (.seq (.digits 1) .fraction)).ends s).head?
      = (decimalLength? s.after).map s.skip := by
  have hnone : ∀ u : Spot, u.after.head? = some '-' →
      (Node.seq (.digits 1) .fraction).ends u = [] := by
    intro u hu
    have hhead := head?_ends_digits_one u
    unfold runLength? at hhead
    rw [hu] at hhead
    show ((Node.digits 1).ends u).flatMap _ = []
    rw [List.head?_eq_none_iff.1 hhead]
    rfl
  have hfraction : ∀ u, Node.fraction.ends u ≠ [] := by
    intro u hu
    have hhead := head?_ends_fraction u
    rw [hu] at hhead
    cases hhead
  rw [ends_signed hnone]
  show (((Node.digits 1).ends _).flatMap Node.fraction.ends).head? = _
  rw [head?_flatMap_of_ne_nil fun u _ => hfraction u, head?_ends_digits_one]
  rw [Spot.after_skip]
  unfold decimalLength?
  dsimp only
  cases runLength? Char.isDigit (s.after.drop (signLength s.after)) with
  | none => rfl
  | some n =>
      show (Node.fraction.ends ((s.skip _).skip n)).head? = _
      rw [Spot.skip_skip, head?_ends_fraction, Spot.skip_skip, Nat.add_assoc]
      rfl

/-- A point and digits behind it. -/
theorem head?_ends_point (s : Spot) :
    ((Node.signed (.seq (.char '.') (.digits 1))).ends s).head?
      = (pointLength? s.after).map s.skip := by
  have hends : ∀ u : Spot, (Node.seq (.char '.') (.digits 1)).ends u
      = if u.after.head? = some '.' then (Node.digits 1).ends (u.skip 1)
        else [] := by
    intro u
    show ((Node.char '.').ends u).flatMap (Node.digits 1).ends = _
    rw [ends_char]
    split
    · exact List.flatMap_singleton _ _
    · rfl
  rw [ends_signed fun u hu => by
    rw [hends, hu]
    rfl, hends]
  unfold pointLength?
  rw [Spot.after_skip]
  by_cases hpoint : (s.after.drop (signLength s.after)).head? = some '.'
  · simp only [if_pos hpoint]
    rw [Spot.skip_skip, head?_ends_digits_one, Spot.after_skip,
      Option.map_map]
    congr 1
    funext n
    exact Spot.skip_skip ..
  · simp only [if_neg hpoint]
    rfl

/-- Hexadecimal digits behind their mark. -/
theorem head?_ends_hex (s : Spot) :
    (Node.hex.ends s).head? = (hexLength? s.after).map s.skip := by
  unfold Node.hex hexLength?
  rw [ends_ofList_append]
  show (((Node.word "0x".toList).ends s).flatMap _).head? = _
  rw [ends_word]
  split
  · rw [List.flatMap_singleton]
    show (spanEnds .greedy 1 none _ (s.skip 2)).head? = _
    rw [Spot.head?_spanEnds_one, mem_hexDigits, Spot.after_skip]
    unfold runLength?
    split
    · exact congrArg some (Spot.skip_skip ..)
    · rfl
  · rfl

/-- The preferred end of a number is where the reader stops. -/
theorem head?_ends_number (s : Spot) :
    (Node.number.ends s).head? = (numberLength? s.after).map s.skip := by
  show (Node.hex.ends s ++ (_ ++ (_ ++ []))).head? = _
  rw [List.append_nil, List.head?_append, List.head?_append, head?_ends_hex,
    head?_ends_decimal, head?_ends_point]
  unfold numberLength?
  rw [Option.map_or, Option.map_or]

-- =============================================================== bounds

/-- A run is part of the text. -/
theorem runLength?_le {q : Char → Bool} {t : Text} {n : Nat}
    (h : runLength? q t = some n) : n ≤ t.length := by
  unfold runLength? at h
  split at h
  · cases h
    exact (List.takeWhile_prefix q).length_le
  · cases h

theorem fractionLength_le (t : Text) : fractionLength t ≤ t.length := by
  unfold fractionLength
  split
  · next h =>
    obtain ⟨r, rfl⟩ := List.head?_eq_some_iff.1 h
    have hle := (List.takeWhile_prefix (l := r) Char.isDigit).length_le
    rw [List.length_cons]
    show 1 + (r.takeWhile Char.isDigit).length ≤ _
    omega
  · exact Nat.zero_le _

theorem signLength_le (t : Text) : signLength t ≤ t.length := by
  unfold signLength
  split
  · next h =>
    obtain ⟨r, rfl⟩ := List.head?_eq_some_iff.1 h
    exact Nat.le_add_left 1 _
  · exact Nat.zero_le _

/-- A number is part of the text. -/
theorem numberLength?_le {t : Text} {n : Nat} (h : numberLength? t = some n) :
    n ≤ t.length := by
  have hsign := signLength_le t
  unfold numberLength? at h
  rcases Option.or_eq_some_iff.1 h with h | ⟨-, h⟩
  · unfold hexLength? at h
    split at h
    · next hx =>
      obtain ⟨m, hm, rfl⟩ := Option.map_eq_some_iff.1 h
      have hrun := runLength?_le hm
      have hmark := (List.isPrefixOf_iff_prefix.1 hx).length_le
      have htwo : "0x".toList.length = 2 := rfl
      rw [List.length_drop] at hrun
      omega
    · cases h
  rcases Option.or_eq_some_iff.1 h with h | ⟨-, h⟩
  · obtain ⟨m, hm, rfl⟩ := Option.map_eq_some_iff.1 h
    have hrun := runLength?_le hm
    have hfraction := fractionLength_le (t.drop (signLength t + m))
    rw [List.length_drop] at hrun hfraction
    omega
  · unfold pointLength? at h
    dsimp only at h
    split at h
    · next hpoint =>
      obtain ⟨m, hm, rfl⟩ := Option.map_eq_some_iff.1 h
      have hrun := runLength?_le hm
      have hlt := Pattern.lt_of_head?_drop hpoint
      rw [List.length_drop] at hrun
      omega
    · cases h

end Regex

-- ============================================================= patterns

/-- The rule for numbers takes what the reader takes. -/
theorem Pattern.matchLength?_number {p : Pattern}
    (hp : p.node = .anchored .number) (t : Text) :
    p.matchLength? t = .ok (Regex.numberLength? t) :=
  matchLength?_of_anchored hp rfl rfl (Regex.head?_ends_number _)
    fun _ => Regex.numberLength?_le

end Highlight
