import Highlighting.Pattern.Search
import Highlighting.Style.StyleClass

/-!
The result of highlighting one block of text: which bytes are of which class, and whether a comment
is still open at the end.
-/
namespace Highlighting

structure Span where
  start : Nat
  length : Nat
  kind : StyleClass
  deriving DecidableEq, Repr

namespace Span

def stop (s : Span) : Nat := s.start + s.length

def contains (s : Span) (i : Nat) : Bool := s.start ≤ i && i < s.stop

def text? (s : Span) (block : Text) : Option Text := block.slice? s.start s.stop

end Span

inductive BlockState where
  | normal
  | inComment
  deriving DecidableEq, Repr, Inhabited

namespace BlockState

def toInt : BlockState → Int
  | normal => 0
  | inComment => 1

def ofInt (n : Int) : BlockState := if n = 1 then inComment else normal

end BlockState

structure Highlight where
  spans : List Span
  state : BlockState
  deriving DecidableEq, Repr

end Highlighting
