/-
What the rules for numbers, strings and comments take.

Each of them does what a reader does that goes over the line once, from
left to right, and never goes back (`Spec.literals_recognised`). A number
is read by `numberLength?`. A string goes up to the next quote of its own
kind, where a backslash takes the character behind it along
(`closingLength?`). A comment takes the line from its delimiter on.

The patterns themselves do go back, but in vain: a string that gives up
what stands in it comes to no other quote, since no part of it begins with
one.
-/
import Highlight.Proofs.Language.Blame
import Highlight.Proofs.Regex.Number

namespace Highlight

-- ========================================================== vocabulary

namespace Regex

/-- The length of the text up to the closing quote and with it. A backslash
and the character behind it are read together. -/
def closingLength? (q : Char) : Text → Option Nat
  | [] => none
  | c :: t =>
    if c = '\\' then
      match t with
      | [] => none
      | _ :: t => (closingLength? q t).map (2 + ·)
    else if c = q then some 1
    else (closingLength? q t).map (1 + ·)

/-- The length of the string at the start of a text, which may stand in any
of these quotes. -/
def stringLength? (quotes : List Char) : Text → Option Nat
  | [] => none
  | q :: t =>
    if q ∈ quotes then (closingLength? q t).map (1 + ·) else none

/-- The length of a comment, which is all the text there is. -/
def commentLength? (delimiter t : Text) : Option Nat :=
  if delimiter.isPrefixOf t then some t.length else none

end Regex

/-- Of every text without a line feed the rule takes as much as a reader
finds there, and nothing where the reader finds nothing. -/
def Rule.Recognises (label : String) (read : Text → Option Nat) (r : Rule) :
    Prop :=
  ∃ p, r = .simple p (some label)
    ∧ ∀ t, '\n' ∉ t → p.matchLength? t = .ok (read t)

/-- The quotes in which a language has strings. -/
def Spec.quotes (s : Spec) : List Char :=
  (if s.doubleString then ['"'] else [])
    ++ if s.singleString then ['\''] else []

-- ============================================================= strings

namespace Regex

variable {q c : Char}

/-- A backslash hides the character behind it. -/
theorem closingLength?_pair (q d : Char) (t : Text) :
    closingLength? q ('\\' :: d :: t) = (closingLength? q t).map (2 + ·) := by
  rw [closingLength?, if_pos rfl]

/-- Any other character closes the string or belongs to it. -/
theorem closingLength?_cons (hc : c ≠ '\\') (t : Text) :
    closingLength? q (c :: t)
      = if c = q then some 1 else (closingLength? q t).map (1 + ·) := by
  cases t with
  | nil => simp [closingLength?, hc]
  | cons d t => rw [closingLength?, if_neg hc]

/-- The closing quote stands behind all units, or nowhere. -/
theorem closingLength?_eq (hq : q ≠ '\\') {t : Text} (h : '\n' ∉ t) :
    closingLength? q t
      = if (t.drop (quotedRun q t)).head? = some q then
          some (quotedRun q t + 1)
        else none := by
  induction t using quoted_induction q with
  | nil => simp [closingLength?]
  | closing t _ =>
      rw [quotedRun_eq_zero (quotedUnit_closing hq t),
        closingLength?_cons hq, if_pos rfl]
      exact (if_pos rfl).symm
  | lone =>
      rw [quotedRun_eq_zero (quotedUnit_lone q), if_neg fun h => hq ?_]
      · rfl
      · exact (Option.some.inj h).symm
  | newline t => exact absurd (by simp) h
  | pair d t hd ih =>
      have ht : '\n' ∉ t := fun hm => h (by simp [hm])
      rw [closingLength?_pair, ih ht, quotedRun_pair q hd, Nat.add_comm 2,
        List.drop_succ_cons, List.drop_succ_cons]
      split
      · exact congrArg some (Nat.add_comm ..)
      · rfl
  | single c t hc hne ih =>
      have ht : '\n' ∉ t := fun hm => h (by simp [hm])
      rw [closingLength?_cons hc, if_neg hne, ih ht,
        quotedRun_single hc hne, Nat.add_comm 1, List.drop_succ_cons]
      split
      · exact congrArg some (Nat.add_comm ..)
      · rfl

theorem stringLength?_cons (quotes : List Char) (c : Char) (t : Text) :
    stringLength? quotes (c :: t)
      = if c ∈ quotes then (closingLength? c t).map (1 + ·) else none := rfl

/-- On a line both ways of reading a string agree. -/
theorem quotedLength?_eq (hq : q ≠ '\\') {t : Text} (h : '\n' ∉ t) :
    quotedLength? q t = stringLength? [q] t := by
  cases t with
  | nil => rfl
  | cons c t =>
      rw [List.mem_cons, not_or] at h
      rw [quotedLength?_cons, stringLength?_cons]
      by_cases hc : c = q
      · subst hc
        rw [if_pos (List.mem_singleton_self c), closingLength?_eq hq h.2]
        by_cases hclose : (t.drop (quotedRun c t)).head? = some c
        · rw [if_pos ⟨rfl, hclose⟩, if_pos hclose]
          exact congrArg some (Nat.add_comm 1 _).symm
        · rw [if_neg fun h => hclose h.2, if_neg hclose]
          rfl
      · rw [if_neg fun h => hc h.1,
          if_neg fun h => hc (List.mem_singleton.1 h)]

/-- A reader that knows more quotes finds a string in any of them. -/
theorem stringLength?_append (quotes more : List Char) (t : Text) :
    stringLength? (quotes ++ more) t
      = (stringLength? quotes t).or (stringLength? more t) := by
  cases t with
  | nil => rfl
  | cons c t =>
      simp only [stringLength?_cons, List.mem_append]
      by_cases hc : c ∈ quotes
      · by_cases hm : c ∈ more <;> simp [hc, hm]
      · simp [hc]

end Regex

namespace Pattern

open Regex (stringLength? quotedLength?)

variable {p : Pattern} {t : Text}

/-- One kind of quotation marks. -/
theorem matchLength?_quoted {q : Char} (hq : q ≠ '\\')
    (hp : p.node = .anchored (.quoted q 1)) (ht : '\n' ∉ t) :
    p.matchLength? t = .ok (stringLength? [q] t) := by
  rw [← Regex.quotedLength?_eq hq ht]
  refine matchLength?_of_anchored hp rfl rfl ?_
    fun m hm => (quotedLength?_le hm).2
  rw [Regex.ends_quoted hq]
  exact Option.head?_toList

/-- Both kinds: a string ends with the mark that it begins with. -/
theorem matchLength?_eitherQuoted (hp : p.node = .anchored .strings)
    (ht : '\n' ∉ t) :
    p.matchLength? t = .ok (stringLength? ['"', '\''] t) := by
  rw [matchLength?_strings hp, Regex.quotedLength?_eq (by decide) ht,
    Regex.quotedLength?_eq (by decide) ht]
  exact congrArg Except.ok (Regex.stringLength?_append ['"'] ['\''] t).symm

end Pattern

-- =============================================================== rules

namespace Spec

open Regex (Node numberLength? stringLength? commentLength?)

variable {spec : Spec} {label : String} {t : Text} {r : Rule}
  {read : Text → Option Nat}

/-- A rule of its own making recognises what its anchored pattern takes. -/
theorem recognises_of_standard
    (hread : ∀ q p, Pattern.compile t .none = .ok q → q.anchor = .ok p →
      ∀ line, '\n' ∉ line → p.matchLength? line = .ok (read line))
    (h : Standard (t, some label) r) : r.Recognises label read := by
  obtain ⟨q, hq, p, hp, -, rfl⟩ := h
  exact ⟨p, rfl, hread q p hq hp⟩

/-- A fixed pattern recognises what a reader reads, if its tree does. -/
theorem recognises_of_fixed {n : Node} (hn : (t, n) ∈ fixedNodes)
    (hread : ∀ p : Pattern, p.node = .anchored n →
      ∀ line, '\n' ∉ line → p.matchLength? line = .ok (read line))
    (h : Standard (t, some label) r) : r.Recognises label read :=
  recognises_of_standard
    (fun _ p hq hp => hread p (node_of_fixed hn hq hp)) h

/-- The rule for numbers recognises what the reader for numbers reads. -/
theorem recognises_number (h : Standard (numberPattern, some label) r) :
    r.Recognises label numberLength? :=
  recognises_of_fixed (n := .number) (by decide)
    (fun _ hp line _ => Pattern.matchLength?_number hp line) h

/-- Strings are recognised in the quotes that a language has. -/
theorem rel_recognises_strings {rule : Option Rule}
    (h : Option.Rel (fun t => Standard (t, some label))
      spec.stringsPattern? rule) :
    Option.Rel (fun qs => Rule.Recognises label (stringLength? qs))
      ((some spec.quotes).filter (· ≠ [])) rule := by
  unfold stringsPattern? at h
  unfold quotes
  cases hd : spec.doubleString <;> cases hs : spec.singleString
    <;> simp only [hd, hs] at h
  · cases h
    exact .none
  · cases h with
    | some h =>
      exact .some (recognises_of_fixed (n := .quoted '\'' 1) (by decide)
        (fun _ hp _ => Pattern.matchLength?_quoted (by decide) hp) h)
  · cases h with
    | some h =>
      exact .some (recognises_of_fixed (n := .quoted '"' 1) (by decide)
        (fun _ hp _ => Pattern.matchLength?_quoted (by decide) hp) h)
  · cases h with
    | some h =>
      exact .some (recognises_of_fixed (n := .strings) (by decide)
        (fun _ hp _ => Pattern.matchLength?_eitherQuoted hp) h)

/-- Comments are recognised by the delimiter, whatever its characters. -/
theorem rel_recognises_comment {delimiter : Option Text} {rule : Option Rule}
    (h : Option.Rel (fun d => Standard (commentPattern d, some label))
      delimiter rule) :
    Option.Rel (fun d => Rule.Recognises label (commentLength? d))
      delimiter rule := by
  cases h with
  | none => exact .none
  | some h =>
    exact .some (recognises_of_standard (fun _ _ hq hp _ hline =>
      Pattern.matchLength?_comment (Pattern.node_of_comment hq hp) hline) h)

/-- In every compiled language the rules for numbers, strings and comments
take what a single reading from left to right finds. A language whose own
rules do not offend compiles. -/
theorem literals_recognised (spec : Spec) (language : String) :
    ((∀ r ∈ spec.rules, ¬ r.Offends) →
        ∃ rules, spec.compile language = .ok rules)
      ∧ ∀ rules, spec.compile language = .ok rules →
        ∃ l : Layout, rules = l.rules ∧ l.Suits spec
          ∧ l.number.Recognises "value" numberLength?
          ∧ Option.Rel (fun qs => Rule.Recognises "string" (stringLength? qs))
            ((some spec.quotes).filter (· ≠ [])) l.strings
          ∧ Option.Rel (fun d => Rule.Recognises "comment" (commentLength? d))
            (spec.commentDelimiter.filter (· ≠ [])) l.comment := by
  refine ⟨exists_compile language, fun rules h => ?_⟩
  obtain ⟨l, hl, hsuits⟩ := exists_layout h
  exact ⟨l, hl, hsuits, recognises_number hsuits.number,
    rel_recognises_strings hsuits.strings,
    rel_recognises_comment hsuits.comment⟩

/-- Both kinds of strings, and a delimiter that would be a pattern. -/
def dotted : Spec where
  doubleString := true
  singleString := true
  commentDelimiter := some ".*".toList

theorem literals_recognised_dotted :
    ∃ rules, dotted.compile "x" = .ok rules
      ∧ ∃ number ∈ rules, ∃ strings ∈ rules, ∃ comment ∈ rules,
        number.opening.matchLength? "0xfg".toList = .ok (some 3)
          ∧ number.opening.matchLength? "0xg".toList = .ok (some 1)
          ∧ number.opening.matchLength? "-1.x".toList = .ok (some 3)
          ∧ number.opening.matchLength? "-.x".toList = .ok none
          ∧ strings.opening.matchLength? "\"\\\"'\"\"".toList
            = .ok (some 5)
          ∧ strings.opening.matchLength? "'\\".toList = .ok none
          ∧ comment.opening.matchLength? ".*x".toList = .ok (some 3)
          ∧ comment.opening.matchLength? "x".toList = .ok none := by
  obtain ⟨hexists, hliterals⟩ := literals_recognised dotted "x"
  obtain ⟨rules, h⟩ := hexists fun _ hr => absurd hr List.not_mem_nil
  obtain ⟨l, rfl, -, ⟨p, hn, hp⟩, hstrings, hcomment⟩ := hliterals rules h
  obtain ⟨s, hs, p', rfl, hp'⟩ := exists_of_rel_left hstrings
  obtain ⟨c, hc, p'', rfl, hp''⟩ := exists_of_rel_left hcomment
  refine ⟨_, h, .simple p (some "value"), by simp [Layout.rules, hn],
    .simple p' (some "string"), by simp [Layout.rules, hs],
    .simple p'' (some "comment"), by simp [Layout.rules, hc], ?_⟩
  simp only [Rule.opening]
  refine ⟨(hp _ ?_).trans ?_, (hp _ ?_).trans ?_, (hp _ ?_).trans ?_,
    (hp _ ?_).trans ?_, (hp' _ ?_).trans ?_, (hp' _ ?_).trans ?_,
    (hp'' _ ?_).trans ?_, (hp'' _ ?_).trans ?_⟩
  all_goals decide +kernel

end Spec

end Highlight
