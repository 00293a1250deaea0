import Highlighting.CharSet.Basic

/-!
The code points of a set as a sorted list of closed intervals with gaps between them. This is the
form in which the size of a set can be told.
-/
namespace Highlighting

abbrev Intervals := List (Nat × Nat)

namespace Intervals

def lastCodePoint : Nat := 0x10FFFF

/-- Joins an interval with those behind it in the order of their beginnings. -/
def joinFrom (first last : Nat) : Intervals → Intervals
  | [] => [(first, last)]
  | (a, b) :: rest =>
    if a ≤ last + 1 then joinFrom first (max last b) rest else (first, last) :: joinFrom a b rest

def normalize (intervals : Intervals) : Intervals :=
  match intervals.mergeSort fun x y => x.1 ≤ y.1 with
  | [] => []
  | (a, b) :: rest => joinFrom a b rest

def gapsFrom (start : Nat) : Intervals → Intervals
  | [] => if start ≤ lastCodePoint then [(start, lastCodePoint)] else []
  | (a, b) :: rest =>
    if start < a then (start, a - 1) :: gapsFrom (b + 1) rest else gapsFrom (b + 1) rest

def compl (x : Intervals) : Intervals := gapsFrom 0 x

def union (x y : Intervals) : Intervals := normalize (x ++ y)

def inter (x y : Intervals) : Intervals := compl (union (compl x) (compl y))

/-- Every `step`-th code point of `lo` to `hi`, counted from `first`, moved to count from `target`. -/
def moved (first step target lo hi : Nat) : Intervals :=
  if step = 1 then [(target + (lo - first), target + (hi - first))]
  else ((List.range (hi + 1 - lo)).filter fun i => (lo + i - first) % step = 0).map fun i =>
    (target + (lo + i - first), target + (lo + i - first))

def image (run : Unicode.FoldRun) (x : Nat × Nat) : Intervals :=
  let lo := max x.1 run.first
  let hi := min x.2 run.last
  if lo ≤ hi then moved run.first run.step run.target lo hi else []

def preimage (run : Unicode.FoldRun) (x : Nat × Nat) : Intervals :=
  let lo := max x.1 run.target
  let hi := min x.2 (run.target + (run.last - run.first))
  if lo ≤ hi then moved run.target run.step run.first lo hi else []

def along (f : Unicode.FoldRun → Nat × Nat → Intervals) (x : Intervals) : Intervals :=
  Unicode.foldRuns.flatMap fun run => x.flatMap (f run)

/-- All case variants of some code points: with each of them its folded form, and with that all
code points that have this folded form. -/
def folded (x : Intervals) : Intervals :=
  let heads := union x (along image x)
  union heads (along preimage heads)

end Intervals

namespace CharSet

def blankIntervals : Intervals :=
  [(0x9, 0xD), (0x20, 0x20), (0x85, 0x85), (0xA0, 0xA0), (0x1680, 0x1680), (0x2000, 0x200A),
    (0x2028, 0x2029), (0x202F, 0x202F), (0x205F, 0x205F), (0x3000, 0x3000)]

/-- Code points of a set in any order, those of no character among them where a complement has been
taken. -/
def spans : CharSet → Intervals
  | empty => []
  | range first last => if first ≤ last then [(first.toNat, last.toNat)] else []
  | table ranges => ranges.toList
  | word => Unicode.wordRanges.toList
  | digit => Unicode.digitRanges.toList
  | blank => blankIntervals
  | union a b => a.spans ++ b.spans
  | inter a b => a.spans.normalize.inter b.spans.normalize
  | compl a => a.spans.normalize.compl
  | folded a => a.spans.normalize.folded

def intervals (s : CharSet) : Intervals := s.spans.normalize

end CharSet

end Highlighting
