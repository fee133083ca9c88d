/-
The mark under a pattern that is at fault.

A report on a pattern quotes it behind a margin and puts a caret under it,
on a line of its own, as far behind the margin as the fault is from the
start of the pattern (`Spec.text_eq_marked`). Under a pattern of one line
that is right below the fault. In a pattern of several lines the distance
from the start is not the column, or other lines of the pattern come
between the fault and the caret. So the caret is right below the fault just
if the pattern has one line (`Spec.caret_below_iff`).
-/
import Highlight.Proofs.Language.Table
import Highlight.Proofs.Text.Column

namespace Highlight

open Config (Table)
open Text (positionAt lines lineFeeds)

-- ========================================================== vocabulary

namespace Diagnostic

/-- What stands in front of a quotation. -/
def margin : Text := "   | ".toList

/-- The report up to a place of the pattern. -/
def upToPlace (head pattern : Text) (place : Nat) : Text :=
  head ++ '\n' :: (margin ++ pattern.take place)

/-- The report up to the caret. -/
def upToCaret (head pattern : Text) (place : Nat) : Text :=
  head ++ '\n' :: (margin ++ pattern)
    ++ '\n' :: (margin ++ List.replicate place ' ')

/-- Behind its head, a report quotes a pattern and puts a caret under
it. -/
def marked (head pattern : Text) (place : Nat) : Text :=
  upToCaret head pattern place ++ ['^']

/-- Some line of a report ends with the line of the pattern that the place
is on, and right below the place there is a caret. -/
def PointsAt (report pattern : Text) (place : Nat) : Prop :=
  ∃ i before line blank,
    (lines pattern)[(positionAt pattern place).row]? = some line
      ∧ (lines report)[i]? = some (before ++ line)
      ∧ (lines report)[i + 1]? = some (blank ++ ['^'])
      ∧ blank.length = before.length + (positionAt pattern place).col

/-- The second offset of a text is right below the first one: on the next
line and in the same column. -/
def IsBelow (t : Text) (upper lower : Nat) : Prop :=
  (positionAt t lower).row = (positionAt t upper).row + 1
    ∧ (positionAt t lower).col = (positionAt t upper).col

end Diagnostic

namespace Spec

/-- The first fault of a table is a pattern in the rule of this number,
which is rejected for a fault at a place of it. -/
def RejectsAt (t : Table) (i : Nat) (pattern : String) (f : Regex.Fault)
    (place : Nat) : Prop :=
  IsSound t ∧ ∃ r ps j,
    FirstFault (fun v => ¬ DescribesRule v) (entries t) i (.table r)
      ∧ IsSoundRule r ps
      ∧ FirstFault (fun p => ¬ Compiles (ruleFlags r) p) ps j
        (.string pattern)
      ∧ Pattern.compile pattern.toList (ruleFlags r)
        = .error (.fault f (some place))

end Spec

-- ============================================================ positions

namespace Position

/-- Behind a line feed the column is less than the way. -/
theorem col_after_lt {u : Text} (h : '\n' ∈ u) (p : Position) :
    (p.after u).col < u.length := by
  induction u generalizing p with
  | nil => exact absurd h List.not_mem_nil
  | cons c u ih =>
      rw [after_cons, List.length_cons]
      by_cases hu : '\n' ∈ u
      · exact Nat.lt_succ_of_lt (ih hu (p.next c))
      · obtain rfl : '\n' = c := (List.mem_cons.1 h).resolve_right hu
        rw [after_of_not_mem _ hu]
        simp [next]

/-- A line feed and a line behind it. -/
theorem after_lineFeed_cons (p : Position) {l : Text} (h : '\n' ∉ l) :
    p.after ('\n' :: l) = ⟨p.row + 1, l.length, p.offset + 1 + l.length⟩ := by
  rw [after_cons, after_of_not_mem _ h]
  simp [next]

end Position

/-- The position behind the first part of a text. -/
theorem Text.positionAt_append_length (s t : Text) :
    positionAt (s ++ t) s.length = Position.origin.after s := by
  rw [← Position.after_origin_take (by rw [List.length_append]; omega),
    List.take_left]

namespace Diagnostic

variable {head pattern : Text} {place : Nat}

theorem positionAt_place (head pattern : Text) (place : Nat) :
    positionAt (marked head pattern place)
        (upToPlace head pattern place).length
      = Position.origin.after (upToPlace head pattern place) := by
  have hsplit : marked head pattern place = upToPlace head pattern place
      ++ (pattern.drop place
        ++ '\n' :: (margin ++ (List.replicate place ' ' ++ ['^']))) := by
    unfold marked upToCaret upToPlace
    simp only [List.append_assoc, List.cons_append, List.append_cancel_left_eq,
      List.cons.injEq, true_and]
    rw [← List.append_assoc (pattern.take place), List.take_append_drop]
  rw [hsplit, Text.positionAt_append_length]

/-- The caret is on the line behind the pattern. -/
theorem positionAt_caret (head pattern : Text) (place : Nat) :
    positionAt (marked head pattern place)
        (upToCaret head pattern place).length
      = ⟨(Position.origin.after (head ++ '\n' :: (margin ++ pattern))).row
            + 1, margin.length + place,
          (upToCaret head pattern place).length⟩ := by
  have hblank : '\n' ∉ margin ++ List.replicate place ' ' := by
    rw [List.mem_append, not_or]
    exact ⟨by decide, fun h => absurd (List.eq_of_mem_replicate h) (by decide)⟩
  unfold marked
  rw [Text.positionAt_append_length]
  unfold upToCaret
  rw [Position.after_append, Position.after_lineFeed_cons _ hblank]
  simp [Position.origin]
  omega

/-- Under a pattern of one line the caret is right below the place, and
under no other. -/
theorem isBelow_iff (head : Text) (h : place ≤ pattern.length) :
    IsBelow (marked head pattern place)
        (upToPlace head pattern place).length
        (upToCaret head pattern place).length
      ↔ '\n' ∉ pattern := by
  obtain ⟨q, hq, hcol⟩ : ∃ q : Position,
      (∀ t, Position.origin.after (head ++ '\n' :: (margin ++ t))
        = q.after t) ∧ q.col = margin.length := by
    refine ⟨Position.origin.after (head ++ '\n' :: margin), fun t => ?_, ?_⟩
    · rw [← Position.after_append, List.append_assoc, List.cons_append]
    · rw [Position.after_append, Position.after_lineFeed_cons _ (by decide)]
  have hlen : (pattern.take place).length = place :=
    List.length_take_of_le h
  have hrow : lineFeeds (pattern.take place) + lineFeeds (pattern.drop place)
      = lineFeeds pattern := by
    rw [← Text.lineFeeds_append, List.take_append_drop]
  unfold IsBelow
  rw [positionAt_caret, positionAt_place]
  unfold upToPlace
  rw [hq, hq, Position.row_after, Position.row_after]
  dsimp only
  by_cases hline : '\n' ∈ pattern.take place
  · -- the column of the place is less than its distance from the start
    have hlt := Position.col_after_lt hline q
    refine iff_of_false (fun hbelow => ?_) fun hnot =>
      hnot (List.mem_of_mem_take hline)
    omega
  · have hzero : lineFeeds (pattern.take place) = 0 :=
      List.count_eq_zero.2 hline
    rw [Position.after_of_not_mem q hline, hlen, hcol]
    have hmem : '\n' ∉ pattern ↔ lineFeeds pattern = 0 :=
      List.count_eq_zero.symm
    rw [hmem]
    constructor
    · rintro ⟨hsame, -⟩
      omega
    · intro hnone
      exact ⟨by omega, rfl⟩

/-- A report on a pattern of one line ends with that line and the caret. -/
theorem lines_marked (head : Text) (h : '\n' ∉ pattern) :
    lines (marked head pattern place) = lines head ++ [margin ++ pattern,
      margin ++ List.replicate place ' ' ++ ['^']] := by
  have hquote : '\n' ∉ margin ++ pattern := by
    rw [List.mem_append, not_or]
    exact ⟨by decide, h⟩
  have hcaret : '\n' ∉ margin ++ List.replicate place ' ' ++ ['^'] := by
    simp [margin, List.mem_replicate]
  unfold marked upToCaret
  rw [List.append_assoc, List.cons_append, List.append_assoc,
    List.cons_append, Text.lines_append_lineFeed_append,
    Text.lines_append_lineFeed _ hquote, Text.lines_of_not_mem hcaret]

/-- So it points at the place. -/
theorem pointsAt_marked (head : Text) (hplace : place ≤ pattern.length)
    (h : '\n' ∉ pattern) :
    PointsAt (marked head pattern place) pattern place := by
  have hclean : '\n' ∉ pattern.take place := fun hm =>
    h (List.mem_of_mem_take hm)
  have hposition : positionAt pattern place = ⟨0, place, place⟩ := by
    rw [← Position.after_origin_take hplace,
      Position.after_of_not_mem _ hclean, List.length_take_of_le hplace]
    simp [Position.origin]
  refine ⟨(lines head).length, margin, pattern,
    margin ++ List.replicate place ' ', ?_, ?_, ?_, ?_⟩
  · rw [hposition, Text.lines_of_not_mem h]
    rfl
  · rw [lines_marked head h, List.getElem?_append_right (Nat.le_refl _),
      Nat.sub_self]
    rfl
  · rw [lines_marked head h,
      List.getElem?_append_right (Nat.le_add_right _ 1),
      Nat.add_sub_cancel_left]
    rfl
  · rw [hposition, List.length_append, List.length_replicate]

end Diagnostic

-- ============================================================= reports

/-- The place of a fault is in the pattern or right behind it. -/
theorem Pattern.place_le {text : Text} {fs : Regex.Flags} {f : Regex.Fault}
    {place : Nat}
    (h : Pattern.compile text fs = .error (.fault f (some place))) :
    place ≤ text.length := by
  unfold compile at h
  split at h
  · cases h
  · next e _ =>
    cases e with
    | fault g fromEnd =>
        cases fromEnd with
        | none => cases h
        | some n =>
            cases h
            exact Nat.sub_le _ _
    | _ => cases h

namespace Spec

open Diagnostic (marked)

variable {t : Table} {i place : Nat} {pattern : String} {f : Regex.Fault}

/-- What a report on a pattern says before it quotes the pattern. -/
def reportHead (language : String) (i : Nat) (f : Regex.Fault) : Text :=
  (s!"error: {(Cause.badPattern f).message}\n  --> "
    ++ s!"language '{language}', rule {i}").toList ++ "\n   |".toList

/-- The empty pattern is never rejected. -/
theorem isSome_compile_nil (r : Table) :
    (Pattern.compile [] (ruleFlags r)).toOption.isSome := by
  unfold ruleFlags
  split
  · next b _ =>
    cases b
    · decide +kernel
    · decide +kernel
  · decide +kernel

theorem RejectsAt.text_ne (h : RejectsAt t i pattern f place) :
    pattern ≠ "" := by
  rintro rfl
  obtain ⟨-, r, -, -, -, -, -, hcompile⟩ := h
  have hsome := isSome_compile_nil r
  change Pattern.compile [] _ = _ at hcompile
  rw [hcompile] at hsome
  cases hsome

theorem text_eq_marked (language : String) (i : Nat) (pattern : Text)
    (f : Regex.Fault) (place : Nat) :
    Fault.text
        { cause := .badPattern f, language := language, rule := some i,
          pattern := some pattern, column := some place }
      = .ofList (marked (reportHead language i f) pattern place) := by
  have hmargin : "\n   | ".toList = '\n' :: Diagnostic.margin := rfl
  have hquote : "\n   |\n   | ".toList
      = "\n   |".toList ++ '\n' :: Diagnostic.margin := rfl
  simp only [Fault.text, Fault.report, Diagnostic.LanguageReport.text,
    Diagnostic.LanguageReport.location, Diagnostic.LanguageReport.underline,
    Option.map_some]
  rw [← String.toList_inj]
  simp only [Diagnostic.toString_string, String.toList_append,
    String.toList_ofList, Diagnostic.copies, Diagnostic.marked,
    Diagnostic.upToCaret, reportHead, hquote, hmargin, List.append_assoc,
    List.cons_append]
  rfl

/-- A table whose first fault is a rejected pattern is blamed for it: the
report quotes the pattern and puts a caret under it. -/
theorem RejectsAt.exists_report (h : RejectsAt t i pattern f place)
    (language : String) :
    ∃ fault, ofTable language t = .error (.language fault)
      ∧ fault.text
        = .ofList (marked (reportHead language i f) pattern.toList place) := by
  have hword : word? (.string pattern) = some pattern.toList :=
    if_neg h.text_ne
  obtain ⟨hsound, r, ps, j, hrule, hr, hp, hcompile⟩ := h
  have he : pattern? language i (ruleFlags r) (.string pattern)
      = .error (.language
        { cause := .badPattern f, language := language, rule := some i,
          pattern := some pattern.toList, column := some place }) := by
    unfold pattern?
    rw [hword]
    dsimp only
    rw [hcompile]
  have hrules := rulesOf_eq_error hrule (ruleOfTable_eq_error hr hp he)
  rcases ofTable_cases language t with ⟨-, make, heq⟩ | ⟨hnot, -⟩
  · rw [heq, hrules]
    exact ⟨_, rfl, text_eq_marked language i pattern.toList f place⟩
  · exact absurd hsound hnot

/-- A table of one rule with one pattern. -/
def onePattern (pattern : String) : Table :=
  [("rules", .list [.table [("pattern", .string pattern)]])]

/-- Every rejected pattern is the first fault of some table. -/
theorem rejectsAt_onePattern (h : Pattern.compile pattern.toList .none
    = .error (.fault f (some place))) :
    RejectsAt (onePattern pattern) 0 pattern f place := by
  have hnot : ¬ Compiles (ruleFlags [("pattern", .string pattern)])
      (.string pattern) := by
    rintro ⟨s, p, heq, -, hok⟩
    cases heq
    cases h.symm.trans hok
  refine ⟨isSound_of_rules, _, _, 0, .zero ?_, isSoundRule_of_pattern _,
    .zero hnot, h⟩
  rintro ⟨r, ps, heq, hr, hall⟩
  cases heq
  cases hr.patterns
  exact hnot (hall _ List.mem_cons_self)

-- =========================================================== the result

/-- Whatever pattern is rejected for a fault at a place of it, the report
quotes the pattern and has a caret on its last line. With a pattern of one
line it points at the place; with any other the caret is not right below
the place. -/
theorem caret_below_iff (language : String) (t : Table) (i : Nat)
    (pattern : String) (f : Regex.Fault) (place : Nat)
    (h : RejectsAt t i pattern f place) :
    place ≤ pattern.toList.length
      ∧ ∃ fault head, ofTable language t = .error (.language fault)
        ∧ head = reportHead language i f
        ∧ fault.text.toList = marked head pattern.toList place
        ∧ (Diagnostic.IsBelow fault.text.toList
            (Diagnostic.upToPlace head pattern.toList place).length
            (Diagnostic.upToCaret head pattern.toList place).length
          ↔ '\n' ∉ pattern.toList)
        ∧ ('\n' ∉ pattern.toList →
          Diagnostic.PointsAt fault.text.toList pattern.toList place) := by
  have hle : place ≤ pattern.toList.length := by
    obtain ⟨-, r, -, -, -, -, -, hcompile⟩ := h
    exact Pattern.place_le hcompile
  obtain ⟨fault, herror, htext⟩ := h.exists_report language
  have hlist : fault.text.toList
      = marked (reportHead language i f) pattern.toList place := by
    rw [htext, String.toList_ofList]
  refine ⟨hle, fault, _, herror, rfl, hlist, ?_⟩
  rw [hlist]
  exact ⟨Diagnostic.isBelow_iff _ hle, Diagnostic.pointsAt_marked _ hle⟩

/-- A fault right behind the pattern. -/
theorem caret_below_iff_end :
    ∃ fault, ofTable "x" (onePattern "(?") = .error (.language fault)
      ∧ fault.text.toList
        = marked (reportHead "x" 0 .cutShort) "(?".toList 2
      ∧ Diagnostic.PointsAt fault.text.toList "(?".toList 2 := by
  have hreject : RejectsAt (onePattern "(?") 0 "(?" .cutShort 2 :=
    rejectsAt_onePattern (by decide +kernel)
  obtain ⟨-, fault, _, herror, rfl, htext, -, hpoints⟩ :=
    caret_below_iff "x" _ 0 "(?" .cutShort 2 hreject
  exact ⟨fault, herror, htext, hpoints (by decide)⟩

/-- The report on a parenthesis that begins the second line of a
pattern. -/
def secondLineReport : List Text :=
  ["error: invalid pattern: unbalanced parenthesis".toList,
    "  --> language 'x', rule 0".toList, "   |".toList, "   | a".toList,
    ")".toList, "   |   ^".toList]

/-- In a pattern of two lines the fault is a parenthesis that begins the
second one, and the caret is far to the right of it. -/
theorem not_pointsAt_second_line :
    ∃ fault, Pattern.compile "a\n)".toList .none
        = .error (.fault .strayParenthesis (some 2))
      ∧ ofTable "x" (onePattern "a\n)") = .error (.language fault)
      ∧ lines fault.text.toList = secondLineReport
      ∧ ¬ Diagnostic.PointsAt fault.text.toList "a\n)".toList 2 := by
  have hcompile : Pattern.compile "a\n)".toList .none
      = .error (.fault .strayParenthesis (some 2)) := by
    decide +kernel
  obtain ⟨fault, herror, htext⟩ :=
    (rejectsAt_onePattern hcompile).exists_report "x"
  rw [← String.toList_inj, String.toList_ofList] at htext
  have hlines : lines fault.text.toList = secondLineReport := by
    rw [htext]
    decide +kernel
  refine ⟨fault, hcompile, herror, hlines, ?_⟩
  rintro ⟨i, before, line, blank, hline, hi, hnext, hlen⟩
  rw [hlines] at hi hnext
  have hparen : (lines "a\n)".toList)[(positionAt "a\n)".toList 2).row]?
      = some [')'] := by
    decide
  cases hparen.symm.trans hline
  have hcol : (positionAt "a\n)".toList 2).col = 0 := by decide
  rw [hcol] at hlen
  -- no line that ends with the parenthesis is as long as the one below
  have hlength : ∀ i < secondLineReport.length,
      ∀ upper ∈ secondLineReport[i]?, ∀ lower ∈ secondLineReport[i + 1]?,
      upper.getLast? = some ')' → lower.length ≠ upper.length := by
    decide +kernel
  obtain ⟨hlt, -⟩ := List.getElem?_eq_some_iff.1 hi
  exact hlength i hlt _ hi _ hnext (by simp) (by simp [hlen])

end Spec

end Highlight
