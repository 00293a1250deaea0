import Highlighting.Pattern.Basic
import Highlighting.Text.Bytes

/-!
All preferred matches of a pattern in a text, one for each place where a match can begin. The text
is read once from its end to its beginning; how often a part of the pattern is visited at a place
depends only on the loops around it, and not on how many ways to match there are.
-/
namespace Highlighting

/-- Where a group begins and ends, in the order in which a match passes these places. -/
inductive Mark where
  | opened (group offset : Nat)
  | closed (group offset : Nat)
  deriving DecidableEq, Repr

structure Ending where
  stop : Nat
  marks : List Mark := []
  deriving DecidableEq, Repr

namespace Ending

def mark (m : Mark) (e : Ending) : Ending := { e with marks := m :: e.marks }

def openedAt? (group : Nat) (e : Ending) : Option Nat :=
  e.marks.reverse.findSome? fun
    | .opened i offset => if i = group then some offset else none
    | .closed _ _ => none

def closedAt? (group : Nat) (e : Ending) : Option Nat :=
  e.marks.reverse.findSome? fun
    | .opened _ _ => none
    | .closed i offset => if i = group then some offset else none

end Ending

structure Place where
  offset : Nat
  previous : Option Char
  next : Option Char

namespace Pattern

/-- What the parts of a pattern have to know of the place one character further on. A set needs
the ending that follows it there. -/
@[reducible] def Ahead : Pattern → Type
  | empty => Unit
  | set _ => Option Ending
  | look _ => Unit
  | seq a b => Ahead a × Ahead b
  | alt a b => Ahead a × Ahead b
  | loop a _ => Ahead a
  | group _ a => Ahead a

def nothingAhead : (p : Pattern) → p.Ahead
  | empty => ()
  | set _ => none
  | look _ => ()
  | seq a b => (nothingAhead a, nothingAhead b)
  | alt a b => (nothingAhead a, nothingAhead b)
  | loop a _ => nothingAhead a
  | group _ a => nothingAhead a

def prefer (greedy : Bool) (more fewer : Option Ending) : Option Ending :=
  if greedy then more <|> fewer else fewer <|> more

/-- The ending of the preferred match that begins at a place, where `after` is the ending of what
follows the pattern if that begins at the same place. -/
def ending (place : Place) : (p : Pattern) → (after : Option Ending) → p.Ahead → Option Ending
  | empty, after, _ => after
  | set s, _, ahead => if place.next.any s.contains then ahead else none
  | look l, after, _ => if l.holds place.previous place.next then after else none
  | seq a b, after, ahead => ending place a (ending place b after ahead.2) ahead.1
  | alt a b, after, ahead => ending place a after ahead.1 <|> ending place b after ahead.2
  | loop a _, after, ahead => ending place a after ahead
  | group i a, after, ahead =>
    (ending place a (after.map (.mark (.closed i place.offset))) ahead).map
      (.mark (.opened i place.offset))

/-- The ending, and what the place before has to know.

The first round of a loop has `after` behind it, for it may stay at this place. A later round has to
move on, so nothing stands behind it here. The places before have to know the choice between such a
round and `after`. -/
def step (place : Place) : (p : Pattern) → Option Ending → p.Ahead → Option Ending × p.Ahead
  | empty, after, _ => (after, ())
  | set s, after, ahead =>
    (if place.next.any s.contains then ahead else none, after)
  | look l, after, _ => (if l.holds place.previous place.next then after else none, ())
  | seq a b, after, ahead =>
    let second := step place b after ahead.2
    let first := step place a second.1 ahead.1
    (first.1, (first.2, second.2))
  | alt a b, after, ahead =>
    let first := step place a after ahead.1
    let second := step place b after ahead.2
    (first.1 <|> second.1, (first.2, second.2))
  | loop a greedy, after, ahead =>
    let again := prefer greedy (ending place a none ahead) after
    (ending place a after ahead, (step place a again ahead).2)
  | group i a, after, ahead =>
    let body := step place a (after.map (.mark (.closed i place.offset))) ahead
    (body.1.map (.mark (.opened i place.offset)), body.2)

/-- The places of a text from left to right, each with the ending of the match that begins there. -/
abbrev Table := List (Nat × Option Ending)

def tableFrom (p : Pattern) : (previous : Option Char) → (offset : Nat) → Text → Table × p.Ahead
  | previous, offset, [] =>
    let here := p.step ⟨offset, previous, none⟩ (some ⟨offset, []⟩) p.nothingAhead
    ([(offset, here.1)], here.2)
  | previous, offset, c :: rest =>
    let later := tableFrom p (some c) (offset + c.utf8Size) rest
    let here := p.step ⟨offset, previous, some c⟩ (some ⟨offset, []⟩) later.2
    ((offset, here.1) :: later.1, here.2)

def table (p : Pattern) (text : Text) : Table :=
  (p.tableFrom none 0 text).1

end Pattern

end Highlighting
