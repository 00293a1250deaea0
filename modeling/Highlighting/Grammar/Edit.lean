import Highlighting.Grammar.Basic

/-!
Building a grammar step by step. A step changes the grammar in place and stops at the first invalid
pattern. What it has changed before that stays changed.
-/
namespace Highlighting.Grammar

abbrev Editing (α : Type) : Type := ExceptT InvalidPattern (StateM Grammar) α

namespace Editing

def push (rule : Rule) : Editing Unit := modify fun g => { g with rules := g.rules ++ [rule] }

def setLineComment (pattern : Text) : Editing Unit := do
  let line ← MonadExcept.ofExcept (Pattern.compile "line_comment" pattern)
  modify fun g => { g with lineComment := some line }

def setBlockComment (opening closing : Text) : Editing Unit := do
  let delimiters ← MonadExcept.ofExcept (Delimiters.ofText opening closing)
  modify fun g => { g with blockComment := some delimiters }

end Editing

inductive Edit where
  | rule (name : String) (pattern : Text) (kind : StyleClass) (group : Option Nat)
  | words (name : String) (list : List String) (ignoreCase : Bool) (kind : StyleClass)
      (group : Option Nat)
  | lineComment (pattern : Text)
  | blockComment (opening closing : Text)
  deriving DecidableEq, Repr

def Edit.run : Edit → Editing Unit
  | .rule name pattern kind group => do
    let rule ← MonadExcept.ofExcept (Rule.ofText name pattern kind)
    Editing.push { rule with group := group }
  | .words name list ignoreCase kind group => do
    let rule ← MonadExcept.ofExcept (Rule.ofWordsText name list kind ignoreCase)
    Editing.push { rule with group := group }
  | .lineComment pattern => Editing.setLineComment pattern
  | .blockComment opening closing => Editing.setBlockComment opening closing

/-- What a step makes of a grammar, and the grammar that it leaves in any case. -/
def attempt (g : Grammar) (e : Edit) : Except InvalidPattern Unit × Grammar := e.run.run.run g

def edit (g : Grammar) (e : Edit) : Except InvalidPattern Grammar :=
  (g.attempt e).1.map fun _ => (g.attempt e).2

def tryEdit (g : Grammar) (e : Edit) : Grammar := (g.attempt e).2

def tryEdits (g : Grammar) (edits : List Edit) : Grammar := edits.foldl tryEdit g

end Highlighting.Grammar
