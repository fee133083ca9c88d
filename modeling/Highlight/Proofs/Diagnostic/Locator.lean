/-
Where the report on a stalled scan sends the user.

The second line of the report is a locator: the row and the column where
the scan stalled, counted from one (`Diagnostic.locates_stallReport`). Both
are places of the text that was scanned, and it is a line of that text that
the report quotes. Escaping neither adds nor takes a line feed, so the row
is the one in the source. The column counts entities by their characters;
it is the one in the source just if nothing that stands before it on its
line was escaped (`Session.stall_located`).
-/
import Highlight.Proofs.Checked
import Highlight.Proofs.Escape.Text
import Highlight.Proofs.Html.Fragment
import Highlight.Proofs.Scan.Restart
import Highlight.Proofs.Session.Step
import Highlight.Proofs.Text.Column

namespace Highlight

open Text (positionAt slice lineStart lines lineFeeds)

-- ========================================================== vocabulary

namespace Diagnostic

/-- A place of the input; row and column count from zero here, and from one
in the text. -/
def locator (row col : Nat) : Text :=
  s!"--> <input>:{row + 1}:{col + 1}".toList

/-- The second line of a report is blank up to the locator of a place. -/
def Locates (report : String) (row col : Nat) : Prop :=
  ∃ n, (lines report.toList)[1]?
    = some (List.replicate n ' ' ++ locator row col)

end Diagnostic

/-- The text of the tokens that were made of a source, also if the scan
came to no end. -/
def Scan.consumed (rules : List Rule) (source : Text) : Text :=
  (made rules source).flatMap (·.text)

/-- The scan of a source in the language of the settings stalls. -/
def Settings.StallsAt (s : Settings) (source : Text) (rules : List Rule)
    (st : Stall) : Prop :=
  ∃ language name, s.language = .word language
    ∧ s.rules? language = some (name, rules)
    ∧ tokenize rules (s.prepared source) = .error (.stall st)

-- ============================================================ escaping

/-- The last line of an escaped text is the last line, escaped. -/
theorem Html.rtakeWhile_escape (t : Text) :
    (escape t).rtakeWhile (· != '\n') = escape (t.rtakeWhile (· != '\n')) := by
  induction t using List.reverseRecOn with
  | nil => rfl
  | append_singleton t c ih =>
      have hsingle : escape [c] = escapeChar c := List.append_nil _
      rw [escape_append, hsingle]
      by_cases hc : c = '\n'
      · subst hc
        have hline : escapeChar '\n' = ['\n'] := by decide
        rw [hline, List.rtakeWhile_concat_neg _ _ _ (by simp),
          List.rtakeWhile_concat_neg _ _ _ (by simp)]
        rfl
      · rw [Text.rtakeWhile_append_of_not_mem (lineFeed_not_mem_escapeChar hc),
          List.rtakeWhile_concat_pos _ _ _ (by simpa using hc), ih,
          escape_append, hsingle]

namespace Settings

variable (s : Settings) (t : Text)

theorem lineFeeds_prepared : lineFeeds (s.prepared t) = lineFeeds t := by
  unfold prepared
  split
  · exact Html.lineFeeds_escape t
  · rfl

theorem rtakeWhile_prepared :
    (s.prepared t).rtakeWhile (· != '\n')
      = s.prepared (t.rtakeWhile (· != '\n')) := by
  unfold prepared
  split
  · exact Html.rtakeWhile_escape t
  · rfl

/-- The text that is scanned is as long as the one it was made of just if
nothing in it was escaped. -/
theorem length_prepared_eq_iff :
    (s.prepared t).length = t.length
      ↔ (s.escape → ∀ c ∈ t, c ∉ Html.specials) := by
  unfold prepared
  split
  · next hescape =>
    refine ⟨fun h _ => Html.not_special_of_length_escape h, fun h => ?_⟩
    rw [Html.escape_of_not_special (h hescape)]
  · next hescape =>
    exact ⟨fun _ h => absurd h hescape, fun _ => rfl⟩

end Settings

-- ============================================================ the stall

namespace Scan

variable {rules : List Rule} {source : Text} {st : Stall}

/-- A scan stalls behind the text that it made tokens of. -/
theorem position_of_stall
    (h : tokenize rules source = .error (.stall st)) :
    st.position = Position.origin.after (consumed rules source) := by
  obtain ⟨ts, e, hp, hs⟩ := tokenize_error_iff.1 h
  have hmade : made rules source = ts := by
    rw [made_eq_run, run_origin_iff.2 ⟨e, hp, hs⟩]
  have hconsumed : consumed rules source = source.take e := by
    unfold consumed
    rw [hmade, hp.flatMap_text]
    rfl
  rw [hconsumed]
  cases hs with
  | stall he => exact (Position.after_origin_take he.le).symm

end Scan

/-- Where a scan stalls, by the offset of the source up to which it came:
the row is the one in the source, and the column is the length of the part
of the line before it, as it was scanned. -/
theorem Settings.position_of_stall {s : Settings} {rules : List Rule}
    {source : Text} {st : Stall} {k : Nat}
    (h : tokenize rules (s.prepared source) = .error (.stall st))
    (hk : Scan.consumed rules (s.prepared source)
      = s.prepared (source.take k)) :
    st.position.row = (positionAt source k).row
      ∧ st.position.col
        = (s.prepared (slice source (lineStart source k) k)).length := by
  rw [Scan.position_of_stall h, hk, Position.after_origin,
    Text.slice_lineStart, ← s.rtakeWhile_prepared]
  exact ⟨s.lineFeeds_prepared _, rfl⟩

-- ============================================================ the report

namespace Diagnostic

theorem lineFeed_not_mem_locator (row col : Nat) :
    '\n' ∉ locator row col := by
  have hnumber (n : Nat) : '\n' ∉ (toString n).toList :=
    Text.not_mem_toString (by decide) n
  unfold locator
  simp only [toString_string, String.toList_append, List.mem_append, not_or]
  exact ⟨⟨⟨by decide, hnumber _⟩, by decide⟩, hnumber _⟩

theorem lineFeed_not_mem_stallMessage (st : Stall) :
    '\n' ∉ (stallMessage st).toList := by
  have hrule : '\n' ∉ (toString st.rule).toList :=
    Text.not_mem_toString (by decide) st.rule
  unfold stallMessage
  simp only [toString_string, String.toList_append, List.mem_append, not_or]
  exact ⟨⟨by decide, hrule⟩, by decide⟩

/-- The first two lines of the report on a stall. -/
theorem exists_stallReport_eq (st : Stall) (source : Text) :
    ∃ n rest, (stallReport st source).toList
      = ("error: ".toList ++ (stallMessage st).toList) ++ '\n' ::
        ((List.replicate n ' ' ++ locator st.position.row st.position.col)
          ++ '\n' :: rest) := by
  have hnumber (n : Nat) : toString ((n : Int) + 1) = toString (n + 1) := rfl
  unfold stallReport scanReport Place.ofPosition locator
  simp only [toString_string, hnumber, String.toList_append, copies,
    String.toList_ofList, List.append_assoc]
  exact ⟨_, _, rfl⟩

/-- The locator of a stall names its row and its column. -/
theorem locates_stallReport (st : Stall) (source : Text) :
    Locates (stallReport st source) st.position.row st.position.col := by
  obtain ⟨n, rest, hreport⟩ := exists_stallReport_eq st source
  have hhead : '\n' ∉ "error: ".toList ++ (stallMessage st).toList := by
    rw [List.mem_append, not_or]
    exact ⟨by decide, lineFeed_not_mem_stallMessage st⟩
  have hline : '\n' ∉ List.replicate n ' '
      ++ locator st.position.row st.position.col := by
    rw [List.mem_append, not_or]
    exact ⟨by simp, lineFeed_not_mem_locator _ _⟩
  refine ⟨n, ?_⟩
  rw [hreport, Text.lines_append_lineFeed _ hhead,
    Text.lines_append_lineFeed _ hline]
  rfl

end Diagnostic

-- ========================================================== the session

namespace Settings

variable {s : Settings} {source : Text} {st : Stall}

/-- Only a scan halts what is put out in a language. -/
theorem highlightIn_eq_error_iff {language : String} {halt : Halt} :
    s.highlightIn language source = .error halt
      ↔ ∃ name rules, s.rules? language = some (name, rules)
        ∧ tokenize rules (s.prepared source) = .error halt := by
  unfold highlightIn
  cases hrules : s.rules? language with
  | none => simp
  | some p =>
      obtain ⟨name, rules⟩ := p
      dsimp only
      have hrest (m : Except Halt (List Token))
          (f : List Token → String × Text) :
          (m >>= fun ts => .ok (f ts)) = .error halt ↔ m = .error halt := by
        cases m <;> simp [bind, Except.bind]
      rw [hrest]
      constructor
      · exact fun h => ⟨name, rules, rfl, h⟩
      · rintro ⟨name', rules', hsame, h⟩
        cases hsame
        exact h

/-- A source is not highlighted for a stall just if its scan stalls. -/
theorem highlight_eq_stall_iff :
    s.highlight source = .error (.halt (.stall st))
      ↔ ∃ rules, s.StallsAt source rules st := by
  unfold StallsAt highlight
  cases s.language with
  | nothing => simp
  | word language =>
      dsimp only
      rw [mapError_eq_error_iff]
      constructor
      · rintro ⟨halt, h, hsame⟩
        cases hsame
        obtain ⟨name, rules, hrules, htokens⟩ := highlightIn_eq_error_iff.1 h
        exact ⟨rules, language, name, rfl, hrules, htokens⟩
      · rintro ⟨rules, language', name, hsame, hrules, htokens⟩
        cases hsame
        exact ⟨_, highlightIn_eq_error_iff.2 ⟨name, rules, hrules, htokens⟩,
          rfl⟩

/-- Bare output stalls where the language stalls on the escaped text. -/
theorem stallsAt_bare_iff {language : String} {registry : Registry}
    {rules rules' : List Rule}
    (hget : registry.get? language = some rules) :
    (bare language registry).StallsAt source rules' st
      ↔ rules' = rules
        ∧ tokenize rules (Html.escape source) = .error (.stall st) := by
  constructor
  · rintro ⟨language', name, h, hrules, htokens⟩
    cases h
    cases (rules?_bare hget).symm.trans hrules
    exact ⟨rfl, htokens⟩
  · rintro ⟨rfl, htokens⟩
    exact ⟨language, language, rfl, rules?_bare hget, htokens⟩

end Settings

namespace Session

variable {s : Settings} {source : Text} {report : String}

/-- What a scan comes to is reported as a stall just if it is one. -/
theorem ofObstacle_eq_stall_iff {o : Settings.Obstacle} :
    Failure.ofObstacle s source o = .stall report
      ↔ ∃ st, o = .halt (.stall st) ∧ report = s.stallReport source st := by
  rcases o with (st | c) | _
  · simp [Failure.ofObstacle, eq_comm]
  · simp [Failure.ofObstacle]
  · simp [Failure.ofObstacle]

/-- A report on a stall is made of a source on which the scan stalls. -/
theorem outputOf_eq_stall_iff :
    outputOf s (.ok (some source)) = .error (.stall report)
      ↔ ∃ rules st, s.StallsAt source rules st
        ∧ report = s.stallReport source st := by
  unfold outputOf
  dsimp only
  rw [mapError_eq_error_iff]
  constructor
  · rintro ⟨o, h, hstall⟩
    obtain ⟨st, rfl, hreport⟩ := ofObstacle_eq_stall_iff.1 hstall
    obtain ⟨rules, hstalls⟩ := Settings.highlight_eq_stall_iff.1 h
    exact ⟨rules, st, hstalls, hreport⟩
  · rintro ⟨rules, st, hstalls, hreport⟩
    exact ⟨_, Settings.highlight_eq_stall_iff.2 ⟨rules, hstalls⟩,
      ofObstacle_eq_stall_iff.2 ⟨st, rfl, hreport⟩⟩

/-- A report on a stall is noted, and the session ends with 1. -/
theorem run_once_of_stall {m : Machine}
    (hm : m.source s = .ok (some source))
    (h : outputOf s (.ok (some source)) = .error (.stall report)) :
    (once s : StateM Machine _).run m
      = (.finished 1, m.noted (report ++ "\n")) := by
  rw [run_once, hm, h]
  rfl

-- =========================================================== the result

/-- Every stalled scan is reported, with a locator of the place where it
stalled. If the scan came up to what was made of the first characters of
the source, the row is the one behind them in the source. The column is the
length of what was made of the part of the line before; it is the one in
the source just if nothing of that part was escaped. -/
theorem stall_located (s : Settings) (source : Text) (report : String)
    (h : outputOf s (.ok (some source)) = .error (.stall report)) :
    ∃ rules st, s.StallsAt source rules st
      ∧ Diagnostic.Locates report st.position.row st.position.col
      ∧ (∀ m : Machine, m.source s = .ok (some source) →
        (once s : StateM Machine _).run m
          = (.finished 1, m.noted (report ++ "\n")))
      ∧ ∀ k ≤ source.length,
        Scan.consumed rules (s.prepared source)
            = s.prepared (source.take k) →
          st.position.row = (positionAt source k).row
            ∧ st.position.col
              = (s.prepared (slice source (lineStart source k) k)).length
            ∧ (st.position.col = (positionAt source k).col
              ↔ (s.escape →
                ∀ c ∈ slice source (lineStart source k) k,
                  c ∉ Html.specials)) := by
  obtain ⟨rules, st, hstalls, hreport⟩ := outputOf_eq_stall_iff.1 h
  refine ⟨rules, st, hstalls, ?_, ?_, ?_⟩
  · rw [hreport]
    exact Diagnostic.locates_stallReport st _
  · exact fun m hm => run_once_of_stall hm h
  · intro k hk hconsumed
    obtain ⟨language, name, -, -, htokens⟩ := hstalls
    obtain ⟨hrow, hcol⟩ := Settings.position_of_stall htokens hconsumed
    have hplain : (positionAt source k).col
        = (slice source (lineStart source k) k).length := by
      rw [Text.slice_lineStart, Text.length_rtakeWhile hk]
    refine ⟨hrow, hcol, ?_⟩
    rw [hcol, hplain, s.length_prepared_eq_iff]

/-- A language with one rule, which looks ahead. -/
def aheadTable : Config.Table :=
  [("rules", .list [.table [("pattern", .string "(?=x)")]])]

/-- With a registry that a configuration made, the bare output of a text is
a report on a stall, if its language stalls on the escaped text. -/
theorem exists_stall (source : Text) (st : Stall) (used : Text)
    (h : ((Spec.ofTable "x" aheadTable).toOption.bind fun spec =>
      (spec.compile "x").toOption.map fun rules =>
        (tokenize rules (Html.escape source),
          Scan.consumed rules (Html.escape source)))
      = some (.error (.stall st), used)) :
    ∃ log r rules, Config.registry? [("languages", .table
          [("x", .table aheadTable)])] = (log, .ok (some r))
      ∧ (∀ rules' st', (Settings.bare "x" r).StallsAt source rules' st'
        ↔ rules' = rules ∧ st' = st)
      ∧ Scan.consumed rules (Html.escape source) = used
      ∧ outputOf (.bare "x" r) (.ok (some source))
        = .error (.stall ((Settings.bare "x" r).stallReport source st)) := by
  obtain ⟨spec, hspec, h⟩ := Option.bind_eq_some_iff.1 h
  obtain ⟨rules, hrules, h⟩ := Option.map_eq_some_iff.1 h
  obtain ⟨htokens, hused⟩ := Prod.mk.inj h
  obtain ⟨log, r, hr, -, hget⟩ := Registry.exists_registry?
    (eq_ok_of_toOption hspec) (eq_ok_of_toOption hrules)
  have hstalls (rules' : List Rule) (st' : Stall) :
      (Settings.bare "x" r).StallsAt source rules' st'
        ↔ rules' = rules ∧ st' = st := by
    rw [Settings.stallsAt_bare_iff hget, htokens]
    simp [eq_comm]
  exact ⟨log, r, rules, hr, hstalls, hused,
    outputOf_eq_stall_iff.2
      ⟨rules, st, (hstalls _ _).2 ⟨rfl, rfl⟩, rfl⟩⟩

/-- A stall behind an entity of the line before and one of its own line,
of which only the latter moves it. -/
theorem stall_located_second_line :
    ∃ log r report, Config.registry? [("languages", .table
          [("x", .table aheadTable)])] = (log, .ok (some r))
      ∧ outputOf (.bare "x" r) (.ok (some "&\n<x".toList))
        = .error (.stall report)
      ∧ Diagnostic.Locates report 1 4
      ∧ positionAt "&\n<x".toList 3 = ⟨1, 1, 3⟩
      ∧ ∀ m : Machine, m.input = some "&\n<x".toList →
        (once (.bare "x" r) : StateM Machine _).run m
          = (.finished 1, m.noted (report ++ "\n")) := by
  obtain ⟨log, r, rules, hr, hstalls, hused, hout⟩ :=
    exists_stall "&\n<x".toList ⟨1, ⟨1, 4, 10⟩⟩
      (Html.escape ("&\n<x".toList.take 3)) (by decide +kernel)
  obtain ⟨rules', st, hstalled, hlocates, hrun, hplace⟩ :=
    stall_located _ _ _ hout
  obtain ⟨rfl, -⟩ := (hstalls _ _).1 hstalled
  obtain ⟨hrow, hcol, -⟩ := hplace 3 (by decide) hused
  rw [hrow, hcol] at hlocates
  exact ⟨log, r, _, hr, hout, hlocates, by decide +kernel,
    fun m hm => hrun m (congrArg Except.ok hm)⟩

/-- The entity in front of the place moves the column by its length. -/
theorem not_locates_escaped :
    ∃ log r rules st report, Config.registry? [("languages", .table
          [("x", .table aheadTable)])] = (log, .ok (some r))
      ∧ (Settings.bare "x" r).StallsAt "&x".toList rules st
      ∧ Scan.consumed rules (Html.escape "&x".toList)
        = Html.escape ("&x".toList.take 1)
      ∧ outputOf (.bare "x" r) (.ok (some "&x".toList))
        = .error (.stall report)
      ∧ lines report.toList = ["error: rule 1 matched empty text".toList,
        "  --> <input>:1:6".toList, "  |".toList, "1 | &amp;x".toList,
        "  |      ^".toList]
      ∧ ¬ Diagnostic.Locates report (positionAt "&x".toList 1).row
        (positionAt "&x".toList 1).col := by
  obtain ⟨log, r, rules, hr, hstalls, hused, hout⟩ :=
    exists_stall "&x".toList ⟨1, ⟨0, 5, 5⟩⟩
      (Html.escape ("&x".toList.take 1)) (by decide +kernel)
  have hlines : lines (Diagnostic.stallReport ⟨1, ⟨0, 5, 5⟩⟩
      (Html.escape "&x".toList)).toList
        = ["error: rule 1 matched empty text".toList,
          "  --> <input>:1:6".toList, "  |".toList, "1 | &amp;x".toList,
          "  |      ^".toList] := by
    decide +kernel
  refine ⟨log, r, rules, _, _, hr, (hstalls _ _).2 ⟨rfl, rfl⟩, hused, hout,
    hlines, ?_⟩
  rintro ⟨n, hline⟩
  change (lines (Diagnostic.stallReport ⟨1, ⟨0, 5, 5⟩⟩
    (Html.escape "&x".toList)).toList)[1]? = _ at hline
  rw [hlines] at hline
  -- the last digits differ, whatever the margin is
  have hlast := congrArg List.getLast? (Option.some.inj hline)
  have hlocator : Diagnostic.locator (positionAt "&x".toList 1).row
      (positionAt "&x".toList 1).col = "--> <input>:1:2".toList := by
    decide +kernel
  have hdigit : "--> <input>:1:2".toList.getLast? = some '2' := by decide
  rw [hlocator, List.getLast?_append, hdigit, Option.some_or] at hlast
  exact absurd hlast (by decide)

end Session

end Highlight
