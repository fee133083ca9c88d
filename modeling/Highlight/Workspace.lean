/-
The documents that an editor has open, and their semantic data.

The editor keeps the documents: a look-up by address is all that is asked
of it. The language of a document is what the editor says, if that is a
known name; otherwise the ending of the address decides.
-/
import Highlight.Registry
import Highlight.Semantic

namespace Highlight

/-- The version of the library, for editors and tools that ask. -/
def version : String := "0.1.0"

structure Document where
  languageId : String
  text : Text
deriving Repr

namespace Workspace

/-- The part of an address behind its last slash. -/
def lastPart (uri : Text) : Text :=
  (uri.reverse.takeWhile (· != '/')).reverse

/-- The language of a document. -/
def language? (r : Registry) (uri : Text) (languageId : String) :
    Option String :=
  let said := if languageId = "" then none else r.canonicalName? languageId
  said <|> Language.ofPath? (.ofText (lastPart uri))

/-- The semantic data of the document that a look-up finds under an
address; empty without a known language. The outer result is absent when
no document is found. -/
def semantic? (find? : Text → Option Document) (r : Registry)
    (uri : Text) : Option (Except Semantic.Obstacle (List Int)) :=
  (find? uri).map fun d =>
    match (language? r uri d.languageId).bind r.resolve? with
    | none => .ok []
    | some rules => Semantic.ofSource rules d.text

end Workspace

end Highlight
