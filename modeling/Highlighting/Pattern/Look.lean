import Highlighting.CharSet.Basic

/-!
Conditions on a place between two characters.
-/
namespace Highlighting

inductive WordEdge where
  | boundary
  | interior
  | start
  | stop
  /-- No word character stands before. -/
  | startHalf
  /-- No word character stands behind. -/
  | stopHalf
  deriving DecidableEq, Repr

def WordEdge.holds : WordEdge → (before behind : Bool) → Bool
  | boundary, before, behind => before != behind
  | interior, before, behind => before == behind
  | start, before, behind => !before && behind
  | stop, before, behind => before && !behind
  | startHalf, before, _ => !before
  | stopHalf, _, behind => !behind

inductive Look where
  | textStart
  | textEnd
  /-- Lines end with a line feed. With `crlf`, a carriage return ends them too, and the two together
  are one end. -/
  | lineStart (crlf : Bool)
  | lineEnd (crlf : Bool)
  /-- With `ascii`, only ASCII characters make words. -/
  | word (edge : WordEdge) (ascii : Bool)
  deriving DecidableEq, Repr

namespace Look

def wordBoundary : Look := word .boundary false

def isWord? (ascii : Bool) : Option Char → Bool
  | none => false
  | some c => if ascii then CharSet.asciiWord.contains c else Unicode.isWord c

def holds : Look → (previous next : Option Char) → Bool
  | textStart, previous, _ => previous.isNone
  | textEnd, _, next => next.isNone
  | lineStart crlf, previous, next =>
    previous = none ∨ previous = some '\n' ∨ (crlf ∧ previous = some '\r' ∧ next ≠ some '\n')
  | lineEnd crlf, previous, next =>
    next = none ∨ (crlf ∧ next = some '\r') ∨
      (next = some '\n' ∧ ¬(crlf ∧ previous = some '\r'))
  | word edge ascii, previous, next => edge.holds (isWord? ascii previous) (isWord? ascii next)

end Look

end Highlighting
