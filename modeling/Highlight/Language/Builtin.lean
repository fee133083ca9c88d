/-
The languages that are known from the start, the short names for some of
them, and the endings of file names that tell a language.

Markup is expected in its escaped form, where a tag begins with an entity
and not with an angle bracket.
-/
import Highlight.Language.Compile
import Highlight.Path

namespace Highlight

/-- A pattern that is known to compile. -/
def Pattern.known (text : String) (fs : Regex.Flags)
    (h : (Pattern.compile text.toList fs).toOption.isSome) : Pattern :=
  (Pattern.compile text.toList fs).toOption.get h

namespace Language

open Regex (Flags)

def words (ws : List String) : Option (List Text) :=
  some (ws.map String.toList)

/-- A delimited comment or string. -/
def delimited (opening closing label : String)
    (ho : (Pattern.compile opening.toList .none).toOption.isSome
      := by decide +kernel)
    (hc : (Pattern.compile closing.toList .none).toOption.isSome
      := by decide +kernel) : Rule :=
  .delimited (.known opening .none ho) (.known closing .none hc)
    (some label)

/-- A token within a line. -/
def simple (pattern label : String) (fs : Flags := .none)
    (h : (Pattern.compile pattern.toList fs).toOption.isSome
      := by decide +kernel) : Rule :=
  .simple (.known pattern fs h) (some label)

def javascript : Spec where
  doubleString := true
  singleString := true
  keywords := words
    ["function", "return", "with", "if", "else", "switch", "case",
     "default", "while", "for", "in", "do", "break", "continue", "typeof",
     "instanceof", "var", "this", "void", "new", "throw", "try", "catch",
     "finally"]
  constants := words
    ["true", "false", "null", "undefined"]
  builtins := words
    ["prototype", "String", "Number", "Array", "Object", "RegExp",
     "parseInt", "parseFloat", "valueOf", "toString", "length", "substr",
     "substring", "charAt", "match", "search", "split", "indexOf",
     "lastIndexOf", "replace", "toUpperCase", "toLowerCase", "slice",
     "splice", "push", "shift", "unshift", "pop", "join", "test", "exec",
     "console", "log", "window", "document", "body", "eval", "JSON"]
  commentDelimiter := some "//".toList
  rules := [
    delimited "/\\*" "\\*/" "comment",
    simple "/([^/\\\\]|\\\\.)+/[gimy]*" "regexp"]

def python : Spec where
  doubleString := true
  singleString := true
  keywords := words
    ["def", "return", "with", "pass", "lambda", "if", "else", "elif",
     "while", "for", "in", "continue", "break", "self", "class", "try",
     "except", "finally"]
  constants := words
    ["True", "False", "None"]
  builtins := words
    ["list", "str", "set", "dict", "int", "float", "tuple", "object", "map",
     "filter", "sum", "range", "all", "any", "len", "iter", "reversed",
     "sorted", "slice", "eval", "dir", "ord", "chr", "min", "max", "abs",
     "round", "isinstance", "issubclass", "super", "type"]
  commentDelimiter := some "#".toList
  rules := [delimited "\"\"\"" "\"\"\"" "string"]

def lua : Spec where
  doubleString := true
  singleString := true
  keywords := words
    ["function", "return", "end", "if", "else", "elseif", "then", "while",
     "for", "in", "continue", "break", "do", "repeat", "until", "local",
     "and", "or", "not", "#"]
  constants := words
    ["true", "false", "nil"]
  builtins := words
    ["print", "tostring", "tonumber", "string", "type", "math", "require",
     "pairs", "ipairs", "io", "read", "error", "os", "table",
     "setmetatable", "getmetatable"]
  commentDelimiter := some "--".toList
  rules := [
    delimited "--\\[\\[" "\\]\\]" "comment",
    delimited "--\\[==\\[" "\\]==\\]" "comment",
    delimited "\\[\\[" "\\]\\]" "string",
    delimited "\\[==\\[" "\\]==\\]" "string"]

def css : Spec where
  doubleString := true
  singleString := true
  keywords := words
    ["a", "div", "span", "body", "pre", "code", "h1", "h2", "h3", "h4",
     "h5", "h6", "input", "button", "b", "em"]
  rules := [
    delimited "/\\*" "\\*/" "comment",
    simple "\\.(\\w|-)+" "string",
    simple "#(\\w|-)+" "builtin",
    simple "(\\w|-)+\\s*(?=:)" "keyword",
    simple "::?(\\w+|-)+" "value",
    simple "-?([0-9]+(\\.[0-9]*)?|\\.[0-9]+)(px|em|%)" "value"]

def html : Spec where
  doubleString := true
  singleString := true
  rules := [
    delimited "&lt;!--" "--&gt;" "comment",
    simple "&lt;\\s*!doctype.*?&gt;" "comment" { ignoreCase := true },
    simple "&lt;/?\\w*" "keyword",
    simple "\\w+=" "builtin",
    simple "/?&gt;" "keyword",
    simple "&amp;\\w+;" "string"]

/-- The known languages by name. -/
def builtins : List (String × Spec) :=
  [("javascript", javascript), ("python", python), ("lua", lua),
   ("css", css), ("html", html)]

/-- Short names of known languages. -/
def aliases : List (String × String) :=
  [("js", "javascript"), ("py", "python"), ("htm", "html")]

/-- The language that an ending of a file name tells. -/
def extensions : List (String × String) :=
  [(".js", "javascript"), (".mjs", "javascript"), (".cjs", "javascript"),
   (".py", "python"), (".pyw", "python"), (".lua", "lua"),
   (".css", "css"), (".html", "html"), (".htm", "html")]

/-- The language of a file by the ending of its name, whose case does not
matter. Only ASCII letters have a capital that tells an ending. -/
def ofPath? (p : Path) : Option String :=
  extensions.lookup (.ofList (p.suffix.map Char.toLower))

end Language

end Highlight
