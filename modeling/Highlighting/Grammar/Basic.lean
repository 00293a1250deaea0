import Highlighting.BlockComment
import Highlighting.Coloring
import Highlighting.Language

/-!
Grammars: the rules and comments of a language. Rules paint in their order, so that a later rule
covers an earlier one. Block comments cover all rules, and line comments that begin outside of
them cover everything, unless the block ends inside a comment.
-/
namespace Highlighting

structure Grammar where
  language : Language
  rules : List Rule := []
  lineComment : Option Pattern := none
  blockComment : Option Delimiters := none
  deriving DecidableEq, Repr

namespace Grammar

def empty (language : Language) : Grammar := { language := language }

def comments (g : Grammar) (text : Text) (incoming : BlockState) : List BlockComment :=
  match g.blockComment with
  | none => []
  | some d => d.comments text incoming

def lineComments (g : Grammar) (text : Text) (comments : List BlockComment) : List Range :=
  match g.lineComment with
  | none => []
  | some p =>
    ((p.findAll text).map (·.range)).filter fun r =>
      !r.isEmpty && !comments.any (·.range.contains r.start)

def paintRules (g : Grammar) (text : Text) : Coloring :=
  g.rules.foldl (fun coloring rule => coloring.paint (rule.ranges text) rule.kind)
    (Coloring.blank (Text.byteLength text))

def paint (g : Grammar) (text : Text) (comments : List BlockComment) : Coloring :=
  let claimed := (g.paintRules text).paint (comments.map (·.range)) .blockComment
  match BlockState.after comments with
  | .normal => claimed.paint (g.lineComments text comments) .comment
  | .inComment => claimed

def highlight (g : Grammar) (text : Text) (incoming : BlockState) : Highlight :=
  let comments := g.comments text incoming
  ⟨(g.paint text comments).spans, BlockState.after comments⟩

def highlightAll (g : Grammar) : (incoming : BlockState) → List Text → List Highlight
  | _, [] => []
  | incoming, block :: rest =>
    let h := g.highlight block incoming
    h :: highlightAll g h.state rest

end Grammar

end Highlighting
