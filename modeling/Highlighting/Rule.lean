import Highlighting.Highlight
import Highlighting.Pattern.Parser

/-!
Rules: a pattern and the class that its matches are painted with.
-/
namespace Highlighting

structure InvalidPattern where
  rule : String
  fault : Pattern.Fault
  deriving DecidableEq, Repr

namespace Pattern

def compile (rule : String) (text : Text) : Except InvalidPattern Pattern :=
  match parse text with
  | .ok p => .ok p
  | .error fault => .error ⟨rule, fault⟩

def special : List Char :=
  ['\\', '.', '+', '*', '?', '(', ')', '|', '[', ']', '\x7b', '\x7d', '^', '$', '#', '&', '-', '~']

def escape (text : Text) : Text :=
  text.flatMap fun c => if c ∈ special then ['\\', c] else [c]

def wordsText (list : List String) (ignoreCase : Bool) : Text :=
  (if ignoreCase then "(?i)".toList else []) ++
    ("\\b(?:".toList ++ (['|'].intercalate (list.map fun w => escape w.toList) ++ ")\\b".toList))

def words (list : List String) (ignoreCase : Bool) : Pattern :=
  inOrder [look .wordBoundary, oneOf (list.map fun w => literal w.toList ignoreCase),
    look .wordBoundary]

end Pattern

/-- With a group, only what the group matched is painted. -/
structure Rule where
  name : String
  pattern : Pattern
  kind : StyleClass
  group : Option Nat := none
  deriving DecidableEq, Repr

namespace Rule

def ofText (name : String) (text : Text) (kind : StyleClass) : Except InvalidPattern Rule := do
  return { name := name, pattern := ← Pattern.compile name text, kind := kind }

def ofWordsText (name : String) (list : List String) (kind : StyleClass) (ignoreCase : Bool) :
    Except InvalidPattern Rule :=
  ofText name (Pattern.wordsText list ignoreCase) kind

def ofWords (name : String) (list : List String) (kind : StyleClass) (ignoreCase : Bool) : Rule :=
  { name := name, pattern := .words list ignoreCase, kind := kind }

def withGroup (r : Rule) (group : Nat) : Rule := { r with group := some group }

/-- The bytes to be painted. Empty ranges do not count, nor do matches in which the group took no
part. -/
def ranges (r : Rule) (text : Text) : List Range :=
  let painted : List Range := match r.group with
    | none => (r.pattern.findAll text).map (·.range)
    | some group => (r.pattern.findAll text).filterMap (·.group? group)
  painted.filter (!·.isEmpty)

end Rule

end Highlighting
