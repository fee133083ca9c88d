/-
Numbers, dates and times of configuration documents.

A number may have underscores between its digits. Whole numbers may be
written in base 2, 8 or 16 behind a zero and a letter; a fraction or an
exponent makes a number binary floating point. What begins like a date is
read as one. Only whole numbers in decimal are limited in length.
-/
import Highlight.Config.Toml.Flaw
import Highlight.Config.Value

namespace Highlight.Config.Toml

-- ============================================================= digits

/-- Digits with single underscores between them, and the rest. -/
def digitRun (isDigit : Char → Bool) : Text → Text × Text
  | [] => ([], [])
  | c :: r =>
    if isDigit c then
      let (ds, rest) := more r
      (c :: ds, rest)
    else
      ([], c :: r)
where
  /-- Further digits behind the first. -/
  more : Text → Text × Text
    | '_' :: c :: r =>
      if isDigit c then
        let (ds, rest) := more r
        (c :: ds, rest)
      else
        ([], '_' :: c :: r)
    | c :: r =>
      if isDigit c then
        let (ds, rest) := more r
        (c :: ds, rest)
      else
        ([], c :: r)
    | [] => ([], [])

def isHexDigit (c : Char) : Bool :=
  c.isDigit || ('a' ≤ c && c ≤ 'f') || ('A' ≤ c && c ≤ 'F')

/-- The value of a row of digits. -/
def natOf (base : Nat) (ds : Text) : Nat :=
  ds.foldl (fun n d => n * base + digit d) 0
where
  digit (d : Char) : Nat :=
    if d.isDigit then d.toNat - '0'.toNat
    else d.toLower.toNat - 'a'.toNat + 10

-- ============================================================ numbers

/-- A number in another base, from behind its zero on. -/
def based? : Text → Option (Value × Text)
  | letter :: r =>
    let read (base : Nat) (isDigit : Char → Bool) :
        Option (Value × Text) :=
      match digitRun isDigit r with
      | ([], _) => none
      | (ds, rest) => some (.int (natOf base ds), rest)
    match letter with
    | 'x' => read 16 isHexDigit
    | 'b' => read 2 fun c => c == '0' || c == '1'
    | 'o' => read 8 fun c => '0' ≤ c && c ≤ '7'
    | _ => none
  | [] => none

/-- A sign, if there is one. -/
def sign : Text → Bool × Text
  | '-' :: r => (true, r)
  | '+' :: r => (false, r)
  | r => (false, r)

/-- Digits behind a point; without any the point is not read. -/
def fraction (t : Text) : Text × Text :=
  match t with
  | '.' :: r =>
    match digitRun Char.isDigit r with
    | ([], _) => ([], t)
    | (ds, rest) => (ds, rest)
  | _ => ([], t)

/-- A power of ten; without any digits it is not read. -/
def power? : Text → Option (Int × Text)
  | c :: r =>
    if c = 'e' ∨ c = 'E' then
      let (negative, r) := sign r
      match digitRun Char.isDigit r with
      | ([], _) => none
      | (ds, rest) =>
        let n : Int := natOf 10 ds
        some (if negative then -n else n, rest)
    else
      none
  | [] => none

/-- The digits in front of the point; a zero stands alone. -/
def whole : Text → Text × Text
  | '0' :: r => (['0'], r)
  | t => digitRun Char.isDigit t

/-- A decimal number. -/
def decimal? (t : Text) : Option (Value × Text) :=
  let (negative, r) := sign t
  match whole r with
  | ([], _) => none
  | (ds, r) =>
    let (fs, r) := fraction r
    let n := natOf 10 (ds ++ fs)
    match power? r with
    | some (e, r) =>
      some (.float (.ofDecimal negative n (e - fs.length)), r)
    | none =>
      if fs.isEmpty then
        some (.int (if negative then -n else n), r)
      else
        some (.float (.ofDecimal negative n (-fs.length)), r)

/-- The numbers that have no digits. -/
def named? : Text → Option (Value × Text)
  | 'i' :: 'n' :: 'f' :: r => some (.float (.infinite false), r)
  | '+' :: 'i' :: 'n' :: 'f' :: r => some (.float (.infinite false), r)
  | '-' :: 'i' :: 'n' :: 'f' :: r => some (.float (.infinite true), r)
  | 'n' :: 'a' :: 'n' :: r => some (.float .nan, r)
  | '+' :: 'n' :: 'a' :: 'n' :: r => some (.float .nan, r)
  | '-' :: 'n' :: 'a' :: 'n' :: r => some (.float .nan, r)
  | _ => none

-- ============================================================ moments

/-- A field of two digits within bounds, behind a given character. -/
def field? (mark : Char) (least most : Nat) : Text → Option (Nat × Text)
  | c :: d :: e :: r =>
    let n := natOf 10 [d, e]
    if c = mark ∧ d.isDigit ∧ e.isDigit ∧ least ≤ n ∧ n ≤ most then
      some (n, r)
    else
      none
  | _ => none

/-- The part of a second, of which six digits count. -/
def secondPart : Text → Nat × Text
  | '.' :: r =>
    let ds := r.takeWhile Char.isDigit
    if ds.isEmpty then (0, '.' :: r)
    else
      (natOf 10 ((ds ++ List.replicate 6 '0').take 6), r.drop ds.length)
  | r => (0, r)

/-- A time of the day behind a mark. -/
def clockBehind? (mark : Char) (t : Text) : Option (Clock × Text) := do
  let (hour, r) ← field? mark 0 23 t
  let (minute, r) ← field? ':' 0 59 r
  let (second, r) ← field? ':' 0 59 r
  let (part, r) := secondPart r
  some (⟨hour, minute, second, part⟩, r)

/-- The minutes by which a clock is ahead of universal time, if they are
given. -/
def ahead? (t : Text) : Option (Int × Text) := do
  let mark ← t.head?
  if mark = 'Z' ∨ mark = 'z' then
    some (0, t.drop 1)
  else
    guard (mark = '+' ∨ mark = '-')
    let (hour, r) ← field? mark 0 23 t
    let (minute, r) ← field? ':' 0 59 r
    let distance : Int := hour * 60 + minute
    some (if mark = '-' then -distance else distance, r)

/-- A time behind a date. -/
def clockBehindDate? (t : Text) : Option (Clock × Text) := do
  let mark ← t.head?
  guard (mark = 'T' ∨ mark = 't' ∨ mark = ' ')
  clockBehind? mark t

/-- A date, perhaps with a time. What looks like a date has to be one: the
outer result is absent when the text does not look like a date. -/
def date? (t : Text) : Option (Option (Value × Text)) := do
  let year := t.take 4
  guard (year.length = 4 ∧ year.all Char.isDigit)
  let (month, r) ← field? '-' 1 12 (t.drop 4)
  let (day, r) ← field? '-' 1 31 r
  let date : Date := ⟨natOf 10 year, month, day⟩
  let (moment, r) : Moment × Text :=
    match clockBehindDate? r with
    | none => (.date date, r)
    | some (clock, r) =>
      match ahead? r with
      | none => (.both date clock none, r)
      | some (ahead, r) => (.both date clock (some ahead), r)
  some (if date.valid then some (.moment moment, r) else none)

/-- A time without a date. -/
def time? (t : Text) : Option (Value × Text) := do
  let (clock, r) ← clockBehind? ' ' (' ' :: t)
  some (.moment (.time clock), r)

/-- A decimal number that is not too long, or one without digits. -/
def number (t : Text) : Reading (Value × Text) :=
  match decimal? t with
  | some (.int n, r) =>
    if isWritable n then .ok (.int n, r) else .error .longNumber
  | some read => .ok read
  | none => wellFormed (named? t)

/-- A number in another base, if the text begins with one. -/
def basedBehindZero? : Text → Option (Value × Text)
  | '0' :: r => based? r
  | _ => none

/-- A moment or a number. -/
def scalar (t : Text) : Reading (Value × Text) :=
  match date? t with
  | some dated => wellFormed dated
  | none =>
    match time? t <|> basedBehindZero? t with
    | some read => .ok read
    | none => number t

end Highlight.Config.Toml
