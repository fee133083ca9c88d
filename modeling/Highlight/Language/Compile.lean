/-
From the description of a language to the rules that a scan tries.

The order of the rules is fixed: blanks first, then the language's own
rules, then its words, then numbers, strings and comments, and last any
run of word characters, so that no word is found inside a longer one.
Every opening is anchored to the start of the text it is tried on, and
none may match the empty text.

The standard patterns need no check of their own: they are built from
fixed text and from escaped words.
-/
import Highlight.Language.Spec

namespace Highlight.Spec

open Regex (Flags Rejection literal)

-- =================================================== standard patterns

def blankPattern : Text := "\\s+".toList

def wordRunPattern : Text := "\\w+".toList

/-- Hexadecimal numbers come first: a decimal would end at their zero. -/
def numberPattern : Text :=
  "0x[0-9a-fA-F]+|-?[0-9]+(\\.[0-9]*)?|-?\\.[0-9]+".toList

def doubleStringPattern : Text := "\"([^\"\\\\]|\\\\.)*\"".toList

def singleStringPattern : Text := "'([^'\\\\]|\\\\.)*'".toList

/-- Any of the words, up to a word boundary. -/
def wordsPattern (ws : List Text) : Text :=
  '(' :: Text.join ['|'] (ws.map literal) ++ ")\\b".toList

/-- A delimiter and the rest of the line. -/
def commentPattern (delimiter : Text) : Text :=
  literal delimiter ++ ".*$".toList

/-- The patterns of the strings that a language has. -/
def stringPatterns (s : Spec) : List Text :=
  (if s.doubleString then [doubleStringPattern] else [])
    ++ (if s.singleString then [singleStringPattern] else [])

/-- The words of a list that is not empty. -/
def wordsRule (ws : Option (List Text)) (label : String) :
    List (Text × Option String) :=
  match ws with
  | none | some [] => []
  | some ws => [(wordsPattern ws, some label)]

/-- The patterns behind a language's own rules, with their labels. -/
def standard (s : Spec) : List (Text × Option String) :=
  wordsRule s.keywords "keyword"
    ++ wordsRule s.constants "value"
    ++ wordsRule s.builtins "builtin"
    ++ [(numberPattern, some "value")]
    ++ (match s.stringPatterns with
        | [] => []
        | ps => [(Text.join ['|'] ps, some "string")])
    ++ (match s.commentDelimiter with
        | none | some [] => []
        | some d => [(commentPattern d, some "comment")])
    ++ [(wordRunPattern, none)]

-- =========================================================== compiling

/-- A standard rule. -/
def standardRule (p : Text × Option String) : Except Failure Rule :=
  match Pattern.compile p.1 .none with
  | .ok pattern => .ok (.simple pattern p.2)
  | .error e => .error (.pattern e)

/-- The rule with its opening anchored, if that matches no empty text. A
fault names the language and, for one of its own rules, the number. -/
def anchored (language : String) (rule : Option Nat) (r : Rule) :
    Except Failure Rule :=
  let fault (cause : Cause) : Failure :=
    .language { cause, language, rule, pattern := some r.opening.text }
  match r.opening.anchor with
  | .error (.fault f _) => .error (fault (.badPattern f))
  | .error e => .error (.pattern e)
  | .ok p =>
    match p.matchLength? [] with
    | .ok none => .ok (r.withOpening p)
    | _ => .error (fault .matchesEmpty)

/-- The rules of a language, in the order in which they are tried. -/
def compile (s : Spec) (language : String) :
    Except Failure (List Rule) := do
  let blank ← standardRule (blankPattern, none)
  let standard ← s.standard.mapM standardRule
  let blank ← anchored language none blank
  let own ← s.rules.zipIdx.mapM fun (r, i) => anchored language (some i) r
  let standard ← standard.mapM (anchored language none)
  .ok (blank :: own ++ standard)

end Highlight.Spec
