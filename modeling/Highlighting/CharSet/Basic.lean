import Highlighting.Unicode.Blank
import Highlighting.Unicode.CaseFold
import Highlighting.Unicode.Digit
import Highlighting.Unicode.Word

/-!
Sets of characters, as a pattern describes them: ranges, tables and Unicode classes, closed under
union, intersection, complement and case folding.
-/
namespace Highlighting

inductive CharSet where
  | empty
  | range (first last : Char)
  | table (ranges : Unicode.Ranges)
  | word
  | digit
  | blank
  | union (a b : CharSet)
  | inter (a b : CharSet)
  | compl (a : CharSet)
  | folded (a : CharSet)
  deriving DecidableEq, Repr

namespace CharSet

/-- A folded set holds each character of which some case variant is in the set. -/
def contains : CharSet → Char → Bool
  | empty, _ => false
  | range first last, c => first ≤ c && c ≤ last
  | table ranges, c => ranges.contains c.toNat
  | word, c => Unicode.isWord c
  | digit, c => Unicode.isDigit c
  | blank, c => Unicode.isBlank c
  | union a b, c => a.contains c || b.contains c
  | inter a b, c => a.contains c && b.contains c
  | compl a, c => !a.contains c
  | folded a, c => (Unicode.caseVariants c).any a.contains

def any : CharSet := compl empty

def single (c : Char) : CharSet := range c c

def ofList : List Char → CharSet
  | [] => empty
  | [c] => single c
  | c :: cs => union (single c) (ofList cs)

def unionAll : List CharSet → CharSet
  | [] => empty
  | [a] => a
  | a :: as => union a (unionAll as)

def ascii : CharSet := range '\x00' '\x7f'

def inLine : CharSet := compl (single '\n')

def diff (a b : CharSet) : CharSet := inter a (compl b)

def symmDiff (a b : CharSet) : CharSet := union (diff a b) (diff b a)

def foldedAscii (a : CharSet) : CharSet := inter (folded a) ascii

def asciiLetter : CharSet := union (range 'a' 'z') (range 'A' 'Z')

def asciiDigit : CharSet := range '0' '9'

def asciiWord : CharSet := union (union asciiDigit (single '_')) asciiLetter

def asciiBlank : CharSet := union (range '\t' '\r') (single ' ')

end CharSet

end Highlighting
