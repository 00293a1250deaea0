/-!
Sets of code points given by a sorted table of disjoint closed ranges. Membership is found by
bisection, so a table of several hundred ranges costs about ten comparisons.
-/
namespace Highlighting.Unicode

/-- Closed ranges of code points, in increasing order and without overlap. -/
abbrev Ranges := Array (Nat × Nat)

namespace Ranges

/-- Looks for the range that holds `n` among the entries from `lo` up to `hi`, halving `rounds`
times at most. -/
def search (table : Ranges) (n : Nat) : (rounds lo hi : Nat) → Bool
  | 0, _, _ => false
  | rounds + 1, lo, hi =>
    let middle := (lo + hi) / 2
    match table[middle]? with
    | none => false
    | some (first, last) =>
      if hi ≤ lo then false
      else if n < first then search table n rounds lo middle
      else if last < n then search table n rounds (middle + 1) hi
      else true

def contains (table : Ranges) (n : Nat) : Bool :=
  search table n (table.size.log2 + 1) 0 table.size

end Ranges

end Highlighting.Unicode
