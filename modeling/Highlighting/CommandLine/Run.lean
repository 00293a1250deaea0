import Highlighting.CommandLine.Arguments
import Highlighting.Display.Listing
import Highlighting.Text.Lines
import Highlighting.Theme.File

/-!
Running the command line. What it needs of the world is given by a `Host`, and what it does to the
world is an `Outcome`; a run that fails writes nothing to standard output.
-/
namespace Highlighting.CommandLine

structure Host (m : Type → Type) where
  readFile : String → m (Except FileFault ByteArray)
  readInput : m (Except FileFault ByteArray)
  home : Option String

/-- The exit code of a run, what it writes to standard output, and its report of a failure. Standard
error may hold more than the report: the log goes there too, with a warning for each entry of a theme
that is named after no class and each field that no style has, and the message of the TOML parser
stands there behind `theme parse error`. -/
structure Outcome where
  code : Nat
  output : Text
  errors : Text
  deriving DecidableEq, Repr

def Outcome.ok (output : Text) : Outcome := ⟨0, output, []⟩

def versionLine : String := "snippet-highlight 0.1.0"

def usage : String :=
  String.intercalate "\n" [
    versionLine ++ " - syntax highlighting for code snippets",
    "",
    "Usage: snippet-highlight [OPTIONS] [FILE]",
    "",
    "Reads FILE (or standard input) and prints it highlighted.",
    "",
    "Options:",
    "  -l, --language NAME  Language to highlight as (default: Text)",
    "  -t, --theme FILE     Theme file (default: ~/.snippet-highlight.toml)",
    "  -s, --spans          List classified spans instead of coloring",
    "      --list           List supported languages",
    "  -h, --help           Show this help message",
    "  -V, --version        Show version information",
    "",
    "Set RUST_LOG=snippet_highlight=debug for diagnostics.",
    ""]

def Outcome.ofUsage (fault : UsageFault) : Outcome where
  code := 2
  output := []
  errors := ("Error: " ++ fault.message ++
    "\nTry 'snippet-highlight --help' for more information.\n").toList

def Outcome.ofLoad (fault : LoadFault) : Outcome where
  code := 1
  output := []
  errors := ("Error: " ++ fault.message ++ "\n").toList

def languageList : Text :=
  Language.all.flatMap fun language => language.name.toList ++ ['\n']

def writeLine (spans : Bool) (theme : Theme) (index : Nat) (line : Text) (h : Highlight) :
    Option Text :=
  if spans then Listing.write index line h else Terminal.write theme line h

def writeLines (highlighter : Highlighter) (spans : Bool) (theme : Theme) :
    (index : Nat) → (incoming : BlockState) → List Text → Option Text
  | _, _, [] => some []
  | index, incoming, line :: rest => do
    let h := highlighter.highlight line incoming
    return (← writeLine spans theme index line h) ++
      (← writeLines highlighter spans theme (index + 1) h.state rest)

/-- A text, highlighted line by line. Highlights always fit their lines. -/
def render (options : Options) (theme : Theme) (input : Text) : Text :=
  let highlighter := Highlighter.ofName (options.language.getD "text")
  (writeLines highlighter options.spans theme 0 .normal input.lines).getD []

variable {m : Type → Type} [Monad m]

def highlight (host : Host m) (options : Options) : m Outcome := do
  let contents ← match options.file with
    | some path => host.readFile path
    | none => host.readInput
  match contents.bind decodeBytes with
  | .error fault => return .ofLoad (.file fault)
  | .ok input =>
    let theme ← match options.theme with
      | some path => Theme.load host.readFile path
      | none => Theme.loadHome host.readFile host.home
    match theme with
    | .error fault => return .ofLoad fault
    | .ok theme => return .ok (render options theme input)

def run (host : Host m) (arguments : List String) : m Outcome :=
  match parse arguments with
  | .error fault => return .ofUsage fault
  | .ok .help => return .ok usage.toList
  | .ok .version => return .ok (versionLine ++ "\n").toList
  | .ok .list => return .ok languageList
  | .ok (.highlight options) => highlight host options

end Highlighting.CommandLine
