import Highlighting.Pattern.Look

/-!
Patterns: what a piece of text has to look like. The order of alternatives counts, as does the
preference of a loop for more rounds or for fewer: of all ways to match at a place, a pattern
means the first one in that order.
-/
namespace Highlighting

inductive Pattern where
  | empty
  | set (s : CharSet)
  | look (l : Look)
  | seq (a b : Pattern)
  /-- The first alternative is preferred. -/
  | alt (a b : Pattern)
  /-- One round or more; `greedy` prefers more of them. After the first, a round may not be empty. -/
  | loop (a : Pattern) (greedy : Bool)
  | group (index : Nat) (a : Pattern)
  deriving DecidableEq, Repr

namespace Pattern

def char (c : Char) : Pattern := set (.single c)

def foldedChar (c : Char) : Pattern := set (.ofList (Unicode.caseVariants c))

def inOrder : List Pattern → Pattern
  | [] => empty
  | [a] => a
  | a :: as => seq a (inOrder as)

def oneOf : List Pattern → Pattern
  | [] => empty
  | [a] => a
  | a :: as => alt a (oneOf as)

def literal (text : List Char) (ignoreCase : Bool) : Pattern :=
  inOrder (text.map fun c => if ignoreCase then foldedChar c else char c)

def optional (a : Pattern) (greedy : Bool) : Pattern :=
  if greedy then alt a empty else alt empty a

def star (a : Pattern) (greedy : Bool) : Pattern :=
  optional (loop a greedy) greedy

def exactly (a : Pattern) (n : Nat) : Pattern :=
  inOrder (List.replicate n a)

def atMost (a : Pattern) (greedy : Bool) : Nat → Pattern
  | 0 => empty
  | 1 => optional a greedy
  | n + 2 => optional (seq a (atMost a greedy (n + 1))) greedy

def atLeast (a : Pattern) (greedy : Bool) : Nat → Pattern
  | 0 => star a greedy
  | 1 => loop a greedy
  | n + 2 => seq (exactly a (n + 1)) (loop a greedy)

end Pattern

end Highlighting
