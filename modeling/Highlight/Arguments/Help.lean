/-
The texts that explain the command line: the usage in short, which stands
before a message about wrong usage, and the help.
-/
import Highlight.Arguments.Reading

namespace Highlight.Arguments

/-- The usage in short. -/
def usage : String :=
  "usage: spanlex [-h] [-o OUTPUT] [-l NAME] [--config FILE]"
    ++ " [--line-numbers]\n"
    ++ "               [--standalone] [--no-escape] [--list-languages]"
    ++ " [--watch]\n"
    ++ "               [--debug]\n"
    ++ "               [input]\n"

/-- The help. -/
def help : String :=
  usage ++ "\n"
    ++ "Syntax-highlight source code as HTML span markup\n"
    ++ "\n"
    ++ "positional arguments:\n"
    ++ "  input                 Input source file (default: stdin)\n"
    ++ "\n"
    ++ "options:\n"
    ++ "  -h, --help            show this help message and exit\n"
    ++ "  -o OUTPUT, --output OUTPUT\n"
    ++ "                        Output file (default: stdout)\n"
    ++ "  -l NAME, --language NAME\n"
    ++ "                        Language name or alias"
    ++ " (default: from extension,\n"
    ++ "                        config, or javascript)\n"
    ++ "  --config FILE         Config file"
    ++ " (default: auto-discover spanlex.toml)\n"
    ++ "  --line-numbers        Wrap output in a <pre> block"
    ++ " with a line-number gutter\n"
    ++ "  --standalone          Emit a complete HTML page"
    ++ " with a default stylesheet\n"
    ++ "  --no-escape           Input is already HTML-escaped;"
    ++ " tokenize it as-is\n"
    ++ "  --list-languages      List known languages and exit\n"
    ++ "  --watch               Watch for changes and re-highlight\n"
    ++ "  --debug               Dump tokens and debug log to stderr\n"

/-- What is said about wrong usage. -/
def UsageError.report (e : UsageError) : String :=
  usage ++ "spanlex: error: " ++ e.message ++ "\n"

end Highlight.Arguments
