import Highlighting.Grammar.OfLanguage

/-!
A highlighter with a language chosen by name. It remembers nothing of a document: callers hand the
state of each block to the next.
-/
namespace Highlighting

/-- The chosen language, and how often the choice has changed. The count has no bound; one of 64 bits
agrees with it below 2^64 changes. -/
structure Highlighter where
  language : Language
  generation : Nat
  deriving DecidableEq, Repr

namespace Highlighter

def initial : Highlighter := ⟨.text, 0⟩

/-- Chooses a language; says whether that is a change, after which a document has to be highlighted
again from its first block. -/
def choose (h : Highlighter) (name : String) : Highlighter × Bool :=
  let language := Language.ofName name
  if language = h.language then (h, false) else (⟨language, h.generation + 1⟩, true)

def ofName (name : String) : Highlighter := (initial.choose name).1

def grammars : List Grammar := Language.all.map Language.grammar

theorem index_lt (h : Highlighter) : h.language.index < grammars.length := by
  rw [grammars, List.length_map]
  exact h.language.index_lt

def grammar (h : Highlighter) : Grammar := grammars.get ⟨h.language.index, h.index_lt⟩

theorem grammar_eq (h : Highlighter) : h.grammar = h.language.grammar := by
  obtain ⟨language, generation⟩ := h
  cases language <;> rfl

def highlight (h : Highlighter) (block : Text) (incoming : BlockState) : Highlight :=
  h.grammar.highlight block incoming

def document (h : Highlighter) (blocks : List Text) : List Highlight :=
  h.grammar.highlightAll .normal blocks

end Highlighter

end Highlighting
