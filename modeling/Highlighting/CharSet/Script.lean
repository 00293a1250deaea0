import Highlighting.CharSet.Category
import Highlighting.Unicode.Script

/-!
Scripts as sets of characters, with the names they go by.
-/
namespace Highlighting.CharSet

def ofScript (s : Unicode.Script) : CharSet := .table s.ranges

def script (name : String) : CharSet :=
  match Unicode.scripts.find? fun s => s.names.take 1 = [name] with
  | none => empty
  | some s => ofScript s

def shared : CharSet := .table (Unicode.sharedCharacters.map (·.1)).toArray

/-- All characters that a script uses: those listed with it, and those of its own that are not listed
with others. -/
def usedBy (s : Unicode.Script) : CharSet :=
  union (diff (ofScript s) shared)
    (.table ((Unicode.sharedCharacters.filter fun (_, names) =>
      s.names.any names.contains).map (·.1)).toArray)

def scripts : List Named := Unicode.scripts.map fun s => (s.names, ofScript s)

def scriptUses : List Named := Unicode.scripts.map fun s => (s.names, usedBy s)

end Highlighting.CharSet
