import Highlighting.Highlight

/-!
Painting a block. A coloring holds the class of every byte; what is painted later covers what was
painted before, and the finished coloring is read off in spans that are as long as possible.
-/
namespace Highlighting

abbrev Coloring := List (Option StyleClass)

namespace Coloring

def blank (size : Nat) : Coloring := List.replicate size none

def paint (coloring : Coloring) (ranges : List Range) (kind : StyleClass) : Coloring :=
  coloring.mapIdx fun i old => if ranges.any (·.contains i) then some kind else old

/-- Puts a byte in front of spans that begin after it. -/
def extend (offset : Nat) (kind : StyleClass) : List Span → List Span
  | [] => [⟨offset, 1, kind⟩]
  | s :: rest =>
    if s.start = offset + 1 ∧ s.kind = kind then ⟨offset, s.length + 1, kind⟩ :: rest
    else ⟨offset, 1, kind⟩ :: s :: rest

def spansFrom : (offset : Nat) → Coloring → List Span
  | _, [] => []
  | offset, none :: rest => spansFrom (offset + 1) rest
  | offset, some kind :: rest => extend offset kind (spansFrom (offset + 1) rest)

def spans (coloring : Coloring) : List Span := spansFrom 0 coloring

end Coloring

end Highlighting
