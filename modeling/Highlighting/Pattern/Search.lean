import Highlighting.Pattern.Table

/-!
Searching a text for the matches of a pattern.
-/
namespace Highlighting

structure Range where
  start : Nat
  stop : Nat
  deriving DecidableEq, Repr

namespace Range

def isEmpty (r : Range) : Bool := r.stop ≤ r.start

def contains (r : Range) (i : Nat) : Bool := r.start ≤ i && i < r.stop

end Range

structure Match where
  start : Nat
  ending : Ending
  deriving DecidableEq, Repr

namespace Match

def range (m : Match) : Range := ⟨m.start, m.ending.stop⟩

/-- The bytes that a group matched last; group 0 is the whole match. A group that took no part has
none. -/
def group? (m : Match) (i : Nat) : Option Range :=
  if i = 0 then some m.range
  else do pure ⟨← m.ending.openedAt? i, ← m.ending.closedAt? i⟩

end Match

namespace Pattern.Table

def first? (table : Table) (offset : Nat) : Option Match :=
  table.findSome? fun (start, ending) => if offset ≤ start then ending.map (⟨start, ·⟩) else none

/-- The matches one after another. A search goes on where the last match ended, and does not take
an empty match at that very place. -/
def allFrom (last : Option Nat) : Table → List Match
  | [] => []
  | (_, none) :: rest => allFrom last rest
  | (start, some ending) :: rest =>
    if last.any (start < ·) ∨ (ending.stop = start ∧ last = some start) then allFrom last rest
    else ⟨start, ending⟩ :: allFrom (some ending.stop) rest

end Pattern.Table

namespace Pattern

def findAll (p : Pattern) (text : Text) : List Match :=
  (p.table text).allFrom none

end Pattern

end Highlighting
