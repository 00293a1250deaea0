import Highlighting.Pattern.Basic

/-!
What the text of a pattern says, part by part, before repetitions are written out. How deep the parts
are nested and how much a pattern takes up are told from this form.
-/
namespace Highlighting.Pattern

structure Count where
  least : Nat
  most : Option Nat
  deriving DecidableEq, Repr

namespace Count

def optional : Count := ⟨0, some 1⟩

def any : Count := ⟨0, none⟩

def oneOrMore : Count := ⟨1, none⟩

/-- One occurrence of the empty text is as good as more of them. -/
def clamp (count : Count) : Count := ⟨min count.least 1, some (min (count.most.getD 1) 1)⟩

def apply (count : Count) (greedy : Bool) (p : Pattern) : Pattern :=
  match count.most with
  | none => p.atLeast greedy count.least
  | some most =>
    if most = count.least then p.exactly most
    else if count.least = 0 then p.atMost greedy most
    else seq (p.exactly count.least) (p.atMost greedy (most - count.least))

end Count

inductive Expression where
  | empty
  /-- Only sets flags. -/
  | flags
  | set (s : CharSet) (depth : Nat)
  | look (l : Look)
  | seq (a b : Expression)
  | alt (a b : Expression)
  | repeated (a : Expression) (count : Count) (greedy : Bool)
  | group (index : Option Nat) (a : Expression)
  deriving DecidableEq, Repr

namespace Expression

def inOrder : List Expression → Expression
  | [] => empty
  | [a] => a
  | a :: as => seq a (inOrder as)

def oneOf : List Expression → Expression
  | [] => empty
  | [a] => a
  | a :: as => alt a (oneOf as)

def canBeEmpty : Expression → Bool
  | empty => true
  | flags => true
  | set _ _ => false
  | look _ => true
  | seq a b => a.canBeEmpty && b.canBeEmpty
  | alt a b => a.canBeEmpty || b.canBeEmpty
  | repeated a count _ => count.least = 0 || a.canBeEmpty
  | group _ a => a.canBeEmpty

/-- Has no part that matches anything, not even the empty text. -/
def isBlank : Expression → Bool
  | empty => true
  | flags => true
  | set _ _ => false
  | look _ => false
  | seq a b => a.isBlank && b.isBlank
  | alt _ _ => false
  | repeated _ count _ => count.most = some 0
  | group index a => index.isNone && a.isBlank

/-- Can match nothing but the empty text. -/
def isEmpty : Expression → Bool
  | empty => true
  | flags => true
  | set _ _ => false
  | look _ => true
  | seq a b => a.isEmpty && b.isEmpty
  | alt a b => a.isEmpty && b.isEmpty
  | repeated a count _ => count.most = some 0 || a.isEmpty
  | group _ a => a.isEmpty

def countOf (a : Expression) (count : Count) : Count := if a.isEmpty then count.clamp else count

def isSeq : Expression → Bool
  | seq _ _ => true
  | _ => false

def isAlt : Expression → Bool
  | alt _ _ => true
  | _ => false

/-- How deep parts are nested. A row and a choice count once, however long they are. -/
def depth : Expression → Nat
  | empty => 0
  | flags => 0
  | set _ depth => depth
  | look _ => 0
  | seq a b => max (a.depth + 1) (if b.isSeq then b.depth else b.depth + 1)
  | alt a b => max (a.depth + 1) (if b.isAlt then b.depth else b.depth + 1)
  | repeated a _ _ => a.depth + 1
  | group _ a => a.depth + 1

def pattern : Expression → Pattern
  | empty => .empty
  | flags => .empty
  | set s _ => .set s
  | look l => .look l
  | seq a b => .seq a.pattern b.pattern
  | alt a b => .alt a.pattern b.pattern
  | repeated a count greedy => (a.countOf count).apply greedy a.pattern
  | group none a => a.pattern
  | group (some index) a => .group index a.pattern

end Expression

end Highlighting.Pattern
