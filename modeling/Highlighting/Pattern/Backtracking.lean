import Highlighting.Pattern.Table

/-!
What a pattern means, place by place: try the ways to match in the order of preference, each with
what has to follow behind it, and take the first that succeeds. The table of a pattern holds the same
endings and is what a search uses; this reading of a pattern is the one to reason with.
-/
namespace Highlighting

structure Cursor where
  previous : Option Char
  offset : Nat
  rest : Text

namespace Cursor

def start (text : Text) : Cursor := ⟨none, 0, text⟩

def next? (c : Cursor) : Option Cursor :=
  match c.rest with
  | [] => none
  | x :: rest => some ⟨some x, c.offset + x.utf8Size, rest⟩

def place (c : Cursor) : Place := ⟨c.offset, c.previous, c.rest.head?⟩

def all : (previous : Option Char) → (offset : Nat) → Text → List Cursor
  | previous, offset, [] => [⟨previous, offset, []⟩]
  | previous, offset, x :: rest =>
    ⟨previous, offset, x :: rest⟩ :: all (some x) (offset + x.utf8Size) rest

end Cursor

namespace Pattern

/-- What has to follow: the ending that each cursor leads to, if any. -/
abbrev Follow := Cursor → Option Ending

/-- Another round of a loop, or what follows it. A round that stays where it is fails; the others
come closer to the end of the text, so that as many rounds as characters are left suffice. -/
def again (body : Follow → Follow) (greedy : Bool) (follow : Follow) : (rounds : Nat) → Follow
  | 0, c => follow c
  | rounds + 1, c =>
    prefer greedy
      (body (fun d => if d.rest.length < c.rest.length then again body greedy follow rounds d
        else none) c)
      (follow c)

/-- The ending of the preferred match that begins at a cursor and has `follow` behind it. -/
def run : Pattern → Follow → Follow
  | empty, follow, c => follow c
  | set s, follow, c =>
    match c.rest with
    | [] => none
    | x :: rest => if s.contains x then follow ⟨some x, c.offset + x.utf8Size, rest⟩ else none
  | look l, follow, c => if l.holds c.previous c.rest.head? then follow c else none
  | seq a b, follow, c => run a (run b follow) c
  | alt a b, follow, c => run a follow c <|> run b follow c
  | loop a greedy, follow, c =>
    run a (fun d =>
      if d.rest.length < c.rest.length then again (run a) greedy follow (d.rest.length + 1) d
      else follow d) c
  | group i a, follow, c =>
    (run a (fun d => (follow d).map (.mark (.closed i d.offset))) c).map
      (.mark (.opened i c.offset))

def done : Follow := fun c => some ⟨c.offset, []⟩

end Pattern

end Highlighting
