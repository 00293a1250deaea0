import Highlighting.CharSet.Intervals
import Highlighting.Pattern.Expression
import Highlighting.Text.Utf8
import Std.Data.HashMap

/-!
How much memory a pattern takes up as an automaton that reads a text byte by byte, forwards or
backwards. A pattern that takes up too much is refused.
-/
namespace Highlighting.Pattern

inductive Direction where
  | forward
  | backward
  deriving DecidableEq, Repr

namespace Footprint

/-- A state of the automaton, without the ways out that it has beyond the first. -/
def state : Nat := 32

abbrev Edges := List (Text.Utf8.ByteRange × Nat)

structure States where
  numbers : Std.HashMap Edges Nat
  bytes : Nat

def States.find (s : States) (edges : Edges) : Nat × States :=
  match s.numbers[edges]? with
  | some n => (n, s)
  | none =>
    let n := s.numbers.size + 1
    (n, ⟨s.numbers.insert edges n, s.bytes + state + 8 * edges.length⟩)

/-- Makes the states that read some rows of at most `length` bytes. Rows with a first range in common
share the state behind it. The last state has the number 0. -/
def build : (length : Nat) → List Text.Utf8.Row → States → Nat × States
  | 0, _, s => (0, s)
  | length + 1, rows, s =>
    if rows.all (·.isEmpty) then (0, s)
    else
      let groups := rows.splitBy fun a b => a.take 1 = b.take 1
      let (edges, s) := groups.foldl (fun (edges, s) group =>
        match group with
        | (range :: _) :: _ =>
          let (n, s) := build length (group.map (·.drop 1)) s
          ((range, n) :: edges, s)
        | _ => (edges, s)) (([] : Edges), s)
      s.find edges.reverse

/-- Read forwards, rows share the states for what they have in common at their ends. -/
def forward (rows : List Text.Utf8.Row) : Nat := (build 4 rows ⟨∅, state⟩).2.bytes

def commonLength : Text.Utf8.Row → Text.Utf8.Row → Nat
  | a :: as, b :: bs => if a = b then commonLength as bs + 1 else 0
  | _, _ => 0

/-- The states for rows of which each shares those for what it has in common with the row before. -/
def backwardStates (previous : Text.Utf8.Row) : List Text.Utf8.Row → Nat
  | [] => 0
  | row :: rest => row.length - commonLength previous row + backwardStates row rest

/-- Read backwards, rows share the states for what they have in common at their beginnings. -/
def backward (rows : List Text.Utf8.Row) : Nat :=
  2 * state + state * backwardStates [] rows + 4 * rows.length

/-- Sets of ASCII characters are read by one state, single characters byte after byte. -/
def ofIntervals (direction : Direction) (x : Intervals) : Nat :=
  match x with
  | [] => state
  | (first, last) :: rest =>
    if rest = [] ∧ first = last then state * (Text.Utf8.digits first + 1)
    else if x.all fun (_, b) => b < 0x80 then 2 * state + 8 * x.length
    else
      let rows := x.flatMap fun (a, b) => Text.Utf8.rowsOf a b
      match direction with
      | .forward => forward rows
      | .backward => backward rows

def ofSet (direction : Direction) (s : CharSet) : Nat := ofIntervals direction s.intervals

def ofRepeated (count : Count) (canBeEmpty : Bool) (size : Nat) : Nat :=
  let loop := state + 8
  match count.most with
  | none =>
    if count.least = 0 then
      if canBeEmpty then size + 2 * loop + state else size + loop
    else count.least * size + loop
  | some most =>
    if most = count.least then if most = 0 then state else most * size
    else if count.least = 0 ∧ most = 1 then size + loop + state
    else
      (if count.least = 0 then state else count.least * size) + state +
        (most - count.least) * (size + loop)

end Footprint

namespace Expression

def asSet? : Expression → Option CharSet
  | set s _ => some s
  | alt a b => do return .union (← a.asSet?) (← b.asSet?)
  | group none a => a.asSet?
  | _ => none

/-- The size of an expression, on its own or as one of several choices. A choice between characters is
a set. -/
def size (direction : Direction) : (inChoice : Bool) → Expression → Nat
  | inChoice, set s _ => (if inChoice then 4 else 0) + Footprint.ofSet direction s
  | inChoice, seq a b =>
    (if inChoice then 4 else 0) +
      (if a.isBlank then b.size direction false
        else if b.isBlank then a.size direction false
        else a.size direction false + b.size direction false)
  | inChoice, alt a b =>
    if inChoice then a.size direction true + b.size direction true
    else match (alt a b).asSet? with
      | some s => Footprint.ofSet direction s
      | none => 2 * Footprint.state + a.size direction true + b.size direction true
  | inChoice, repeated a count _ =>
    (if inChoice then 4 else 0) +
      Footprint.ofRepeated (a.countOf count) a.canBeEmpty (a.size direction false)
  | inChoice, group none a =>
    match a.asSet? with
    | some s => (if inChoice then 4 else 0) + Footprint.ofSet direction s
    | none => a.size direction inChoice
  | inChoice, group (some _) a =>
    (if inChoice then 4 else 0) + (if direction = .forward then 2 * Footprint.state else 0) +
      a.size direction false
  | inChoice, _ => (if inChoice then 4 else 0) + Footprint.state

/-- The larger one of the sizes in both directions, with the states around the whole pattern. -/
def footprint (e : Expression) : Nat :=
  max (e.size .forward false + 208) (e.size .backward false + 144)

end Expression

end Highlighting.Pattern
