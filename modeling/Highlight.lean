import Highlight.Cursor
import Highlight.Main
import Highlight.Workspace
import Highlight.Proofs.Escape.Builtin
import Highlight.Proofs.Language.Builtin
import Highlight.Proofs.Language.Stall
import Highlight.Proofs.Scan.FirstMatch
import Highlight.Proofs.Scan.Lines
import Highlight.Proofs.Semantic.Coverage
import Highlight.Proofs.Html.Strip
import Highlight.Proofs.Html.Faithful
import Highlight.Proofs.Html.Page
import Highlight.Proofs.Language.Configured
import Highlight.Proofs.Html.Fragment
import Highlight.Proofs.Entity.Cut
import Highlight.Proofs.Entity.Flow
import Highlight.Proofs.Regex.Choice
import Highlight.Proofs.Entity.Standard
import Highlight.Proofs.Entity.Sever
import Highlight.Proofs.Session.Step
import Highlight.Proofs.Session.Failed
import Highlight.Proofs.Host.Written
import Highlight.Proofs.Session.Watch
import Highlight.Proofs.Session.Fresh
import Highlight.Proofs.Session.Ending
import Highlight.Proofs.Regex.Leftmost
import Highlight.Proofs.Scan.Delimited
import Highlight.Proofs.Language.History
import Highlight.Proofs.Regex.Alongside
import Highlight.Proofs.Regex.Step
import Highlight.Proofs.Regex.Inside
import Highlight.Proofs.Regex.Leading
import Highlight.Proofs.Regex.Hindrance
import Highlight.Proofs.Regex.Anchor
import Highlight.Proofs.Regex.Written
import Highlight.Proofs.Return.Ends
import Highlight.Proofs.Return.Text
import Highlight.Proofs.Return.Match
import Highlight.Proofs.Return.Scan
import Highlight.Proofs.Return.Encoding
import Highlight.Proofs.Language.Standard
import Highlight.Proofs.Language.Table
import Highlight.Proofs.Language.Blame
import Highlight.Proofs.Language.Words
import Highlight.Proofs.Regex.Number
import Highlight.Proofs.Language.Literals
import Highlight.Proofs.Language.WholeWords
import Highlight.Proofs.Language.Listing
import Highlight.Proofs.Html.Gutter
import Highlight.Proofs.Scan.Steps
import Highlight.Proofs.Diagnostic.Caret
import Highlight.Proofs.Diagnostic.Locator
