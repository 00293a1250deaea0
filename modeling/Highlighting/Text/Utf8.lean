/-!
Code points as UTF-8 writes them: an interval of code points is a list of rows of byte ranges, such
that a row stands for all choices of one byte from each of its ranges.
-/
namespace Highlighting.Text.Utf8

abbrev ByteRange := Nat × Nat

abbrev Row := List ByteRange

/-- How many of the six-bit digits behind the first byte a code point needs. -/
def digits (n : Nat) : Nat :=
  if n < 0x80 then 0 else if n < 0x800 then 1 else if n < 0x10000 then 2 else 3

def leadingMark : (digits : Nat) → Nat
  | 0 => 0
  | 1 => 0xC0
  | 2 => 0xE0
  | _ => 0xF0

def weight : Nat → Nat
  | 0 => 1
  | k + 1 => 64 * weight k

def allDigits (k : Nat) : Row := List.replicate k (0x80, 0xBF)

/-- The rows for the numbers from `lo` to `hi` with `k` digits behind their first. The first digits are
marked by `mark`. -/
def rows (mark : Nat) : (k : Nat) → (lo hi : Nat) → List Row
  | 0, lo, hi => [[(mark + lo, mark + hi)]]
  | k + 1, lo, hi =>
    let w := weight (k + 1)
    let first := lo / w
    let last := hi / w
    if first = last then
      (rows 0x80 k (lo % w) (hi % w)).map ((mark + first, mark + first) :: ·)
    else
      let startsFull := lo % w = 0
      let endsFull := hi % w = w - 1
      let a := if startsFull then first else first + 1
      let b := if endsFull then last + 1 else last
      (if startsFull then []
        else (rows 0x80 k (lo % w) (w - 1)).map ((mark + first, mark + first) :: ·)) ++
      (if a < b then [(mark + a, mark + (b - 1)) :: allDigits (k + 1)] else []) ++
      (if endsFull then []
        else (rows 0x80 k 0 (hi % w)).map ((mark + last, mark + last) :: ·))

/-- Intervals of characters that need as many bytes as each other. Surrogates are no characters. -/
def blocks : List (Nat × Nat) :=
  [(0, 0x7F), (0x80, 0x7FF), (0x800, 0xD7FF), (0xE000, 0xFFFF), (0x10000, 0x10FFFF)]

def rowsOf (first last : Nat) : List Row :=
  blocks.flatMap fun (a, b) =>
    let lo := max first a
    let hi := min last b
    if lo ≤ hi then rows (leadingMark (digits lo)) (digits lo) lo hi else []

end Highlighting.Text.Utf8
