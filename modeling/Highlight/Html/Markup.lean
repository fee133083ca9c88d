/-
Highlighted text as HTML: every token with a label is wrapped in a span
of that class, all else is copied. Taking the spans off again gives the
text back, as long as neither text nor labels hold what looks like them.

# Escaping

Text goes into a page with its ampersands and angle brackets written as
entities, inside attribute values also its double quotes.
-/
import Highlight.Rule

namespace Highlight.Html

-- ============================================================ escaping

/-- How a character of text is written. -/
def escapeChar (c : Char) : Text :=
  if c = '&' then "&amp;".toList
  else if c = '<' then "&lt;".toList
  else if c = '>' then "&gt;".toList
  else [c]

/-- Text as it stands in a page. -/
def escape (t : Text) : Text :=
  t.flatMap escapeChar

/-- Text as it stands in an attribute value. -/
def escapeAttribute (t : Text) : Text :=
  (escape t).flatMap fun c => if c = '"' then "&quot;".toList else [c]

@[simp] theorem escape_nil : escape [] = [] := rfl

theorem escape_append (s t : Text) :
    escape (s ++ t) = escape s ++ escape t := by
  simp [escape]

-- =============================================================== spans

def spanOpening : Text := "<span class=\"".toList

def spanOpeningEnd : Text := "\">".toList

def spanClosing : Text := "</span>".toList

/-- One token, in a span if it shows a label. -/
def ofToken (t : Token) : Text :=
  match t.shown? with
  | some label =>
    spanOpening ++ label.toList ++ spanOpeningEnd ++ t.text ++ spanClosing
  | none => t.text

/-- Tokens one after another. -/
def ofTokens (ts : List Token) : Text :=
  ts.flatMap ofToken

/-- What is left when a text begins with another one. -/
def after? : (head t : Text) → Option Text
  | [], t => some t
  | c :: head, d :: t => if c = d then after? head t else none
  | _ :: _, [] => none

/-- What is left behind a span's opening or closing mark, if the text
begins with one. The class may be any text without a double quote. -/
def afterMark? (t : Text) : Option Text :=
  match after? spanOpening t with
  | some r => after? spanOpeningEnd (r.dropWhile (· != '"'))
  | none => after? spanClosing t

theorem length_of_after? {head t r : Text} (h : after? head t = some r) :
    t.length = head.length + r.length := by
  fun_induction after? head t with
  | case1 => cases h; simp
  | case2 => simp only [List.length_cons]; have := ‹_ → _› h; omega
  | case3 => cases h
  | case4 => cases h

theorem length_of_afterMark? {t r : Text} (h : afterMark? t = some r) :
    r.length < t.length := by
  unfold afterMark? at h
  split at h
  · next s hs =>
    have h₁ := length_of_after? hs
    have h₂ := length_of_after? h
    have h₃ := (List.dropWhile_suffix (l := s) (· != '"')).length_le
    have h₄ : spanOpening.length = 13 := rfl
    omega
  · have h₁ := length_of_after? h
    have h₄ : spanClosing.length = 7 := rfl
    omega

/-- The text with all marks of spans taken out. -/
def strip (t : Text) : Text :=
  match h : afterMark? t with
  | some r =>
    have := length_of_afterMark? h
    strip r
  | none =>
    match t with
    | [] => []
    | c :: r => c :: strip r
termination_by t.length

end Highlight.Html
