/-
Source text highlighted from beginning to end, and blocks and pages around
it. A text is scanned by the rules of a language, and its tokens are
written as markup. A block is a preformatted element that may name its
language and carry a gutter of line numbers; a page is a whole document
with a stylesheet around one block.
-/
import Highlight.Html.Markup
import Highlight.Registry
import Highlight.Tokenize

namespace Highlight.Html

-- ============================================================== source

/-- A text highlighted by some rules. -/
def ofSource (rules : List Rule) (source : Text) : Except Halt Text :=
  (tokenize rules source).map ofTokens

/-- A text highlighted in a language; an unknown language leaves the text
as it is. -/
def ofSourceIn (r : Registry) (language : String) (source : Text) :
    Except Halt Text :=
  match r.resolve? language with
  | none => .ok source
  | some rules => ofSource rules source

-- ==================================================== blocks and pages

/-- The colours of the labels. -/
def stylesheet : String :=
  "pre.highlight \x7b font-family: monospace; display: flex; "
    ++ "gap: 1em; \x7d\n"
    ++ "pre.highlight .line-numbers \x7b color: #999; "
    ++ "text-align: right; user-select: none; \x7d\n"
    ++ ".keyword \x7b color: #8959a8; font-weight: bold; \x7d\n"
    ++ ".string \x7b color: #718c00; \x7d\n"
    ++ ".comment \x7b color: #8e908c; font-style: italic; \x7d\n"
    ++ ".value \x7b color: #f5871f; \x7d\n"
    ++ ".builtin \x7b color: #4271ae; \x7d\n"
    ++ ".regexp \x7b color: #c82829; \x7d\n"

/-- The number of lines in the gutter: one for each line feed, but never
none. -/
def lineCount (source : Text) : Nat :=
  max 1 (Text.lineFeeds source)

/-- The gutter with the numbers of all lines. -/
def gutter (source : Text) : Text :=
  let numbers := (List.range (lineCount source)).map fun i =>
    (toString (i + 1)).toList
  "<div class=\"line-numbers\">".toList
    ++ Text.join "<br />".toList numbers ++ "</div>".toList

/-- The attribute that names the language of a block. -/
def languageAttribute : Option String → Text
  | none => []
  | some "" => []
  | some name =>
    " lang=\"".toList ++ escapeAttribute name.toList ++ ['"']

/-- A block around highlighted text. -/
def block (highlighted source : Text) (language : Option String)
    (lineNumbers : Bool) : Text :=
  "<pre class=\"highlight\"".toList ++ languageAttribute language
    ++ ['>'] ++ (if lineNumbers then gutter source else [])
    ++ "<code>".toList ++ highlighted ++ "</code>".toList
    ++ "</pre>\n".toList

/-- The title of a document that has none of its own. -/
def defaultTitle : String := "spanlex"

/-- A document around a block. -/
def page (content title : Text) : Text :=
  "<!DOCTYPE html>\n<html>\n<head>\n<meta charset=\"utf-8\">\n".toList
    ++ "<title>".toList ++ escape title ++ "</title>\n".toList
    ++ "<style>\n".toList ++ stylesheet.toList ++ "</style>\n".toList
    ++ "</head>\n<body>\n".toList ++ content
    ++ "</body>\n</html>\n".toList

end Highlight.Html
