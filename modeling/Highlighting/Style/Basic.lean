import Highlighting.Style.Color

/-!
How a piece of text looks.
-/
namespace Highlighting

structure Style where
  fg : Color := .default
  bold : Bool := false
  italic : Bool := false
  deriving DecidableEq, Repr, Inhabited

namespace Style

def plain : Style := {}

def rgb (r g b : UInt8) : Style := { fg := .rgb r g b }

def withBold (s : Style) : Style := { s with bold := true }

def withItalic (s : Style) : Style := { s with italic := true }

def isPlain (s : Style) : Bool := s = plain

end Style

end Highlighting
