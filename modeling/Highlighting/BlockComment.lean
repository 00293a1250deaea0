import Highlighting.Highlight
import Highlighting.Rule

/-!
Comments between delimiters. A comment runs from an opening delimiter to the first closing one
behind it, and is still open where there is none.
-/
namespace Highlighting

structure Delimiters where
  opening : Pattern
  closing : Pattern
  deriving DecidableEq, Repr

/-- The bytes of a comment, delimiters included, and whether its end is in the text. -/
structure BlockComment where
  range : Range
  closed : Bool
  deriving DecidableEq, Repr

namespace Delimiters

def ofText (opening closing : Text) : Except InvalidPattern Delimiters := do
  return ⟨← Pattern.compile "block_comment_start" opening,
    ← Pattern.compile "block_comment_end" closing⟩

def opening? (d : Delimiters) (text : Text) (offset : Nat) : Option Range :=
  ((d.opening.table text).first? offset).map (·.range)

def closing? (d : Delimiters) (text : Text) (offset : Nat) : Option Nat :=
  ((d.closing.table text).first? offset).map (·.ending.stop)

/-- The comment that begins at `start`, where its closing delimiter is looked for from `offset`. -/
def commentFrom (closings : Pattern.Table) (size start offset : Nat) : BlockComment :=
  match closings.first? offset with
  | some m => ⟨⟨start, m.ending.stop⟩, true⟩
  | none => ⟨⟨start, size⟩, false⟩

/-- The comments that open at or after an offset. A closed comment ends behind its beginning, so
each round moves the offset on and as many rounds as there are bytes suffice. -/
def commentsFrom (openings closings : Pattern.Table) (size : Nat) :
    (rounds offset : Nat) → List BlockComment
  | 0, _ => []
  | rounds + 1, offset =>
    if size ≤ offset then []
    else match openings.first? offset with
      | none => []
      | some m =>
        let comment := commentFrom closings size m.start m.ending.stop
        if comment.closed then
          comment :: commentsFrom openings closings size rounds comment.range.stop
        else [comment]

def comments (d : Delimiters) (text : Text) (incoming : BlockState) : List BlockComment :=
  let openings := d.opening.table text
  let closings := d.closing.table text
  let size := Text.byteLength text
  match incoming with
  | .normal => commentsFrom openings closings size size 0
  | .inComment =>
    let first := commentFrom closings size 0 0
    if first.closed then first :: commentsFrom openings closings size size first.range.stop
    else [first]

end Delimiters

def BlockState.after (comments : List BlockComment) : BlockState :=
  match comments.getLast? with
  | some comment => if comment.closed then .normal else .inComment
  | none => .normal

end Highlighting
