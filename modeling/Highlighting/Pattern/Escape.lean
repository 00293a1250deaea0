import Highlighting.CharSet.Named
import Highlighting.Pattern.Flags
import Highlighting.Text.Digits

/-!
What a backslash and the characters after it stand for.
-/
namespace Highlighting.Pattern

inductive Escape where
  | literal (c : Char)
  | set (s : CharSet)
  | look (l : Look)
  deriving DecidableEq, Repr

namespace Escape

def ofHex (digits : Text) : Except Fault Char :=
  match Text.number? 16 digits with
  | some n => if digits ≠ [] ∧ n.isValidChar then .ok (Char.ofNat n) else .error .badCodePoint
  | none => .error .badCodePoint

def takeSome? (flags : Flags) : (count : Nat) → Text → Option (Text × Text)
  | 0, rest => some ([], rest)
  | _ + 1, [] => none
  | count + 1, c :: rest =>
    (takeSome? flags count (flags.skip rest)).map fun (taken, after) => (c :: taken, after)

/-- A code point in braces, or one of exactly `width` digits. Two digits write a byte, which is a
character of its own in Unicode and in ASCII only. -/
def readCodePoint (flags : Flags) (width : Nat) (text : Text) : Except Fault (Escape × Text) :=
  match flags.skip text with
  | '\x7b' :: rest =>
    match flags.takeUntil? '\x7d' rest with
    | none => .error .badCodePoint
    | some (digits, after) => do return (.literal (← ofHex digits), after)
  | rest =>
    match takeSome? flags width rest with
    | none => .error .badCodePoint
    | some (digits, after) => do
      let c ← ofHex digits
      if width = 2 ∧ !flags.admits c then .error .beyondAscii else return (.literal c, after)

/-- A named set. A name and a value are joined by `=` or `:`, or by `!=` for the complement. -/
def namedSet? (name : Text) : Option (Bool × CharSet) :=
  let before (c : Char) := name.takeWhile (· ≠ c)
  let behind (c : Char) := (name.dropWhile (· ≠ c)).drop 1
  match splitUnequal? name with
  | some (property, value) => (CharSet.ofValue? property value).map (true, ·)
  | none =>
    if ':' ∈ name then (CharSet.ofValue? (before ':') (behind ':')).map (false, ·)
    else if '=' ∈ name then (CharSet.ofValue? (before '=') (behind '=')).map (false, ·)
    else (CharSet.ofName? name).map (false, ·)
where
  splitUnequal? : Text → Option (Text × Text)
    | '!' :: '=' :: value => some ([], value)
    | c :: rest => (splitUnequal? rest).map fun (property, value) => (c :: property, value)
    | [] => none

def readNamed (flags : Flags) (negated : Bool) (text : Text) : Except Fault (Escape × Text) := do
  let (name, after) ← match flags.skip text with
    | '\x7b' :: rest =>
      match flags.takeUntil? '\x7d' rest with
      | none => .error .unknownClass
      | some found => .ok found
    | c :: rest => .ok ([c], rest)
    | [] => .error .trailingBackslash
  if !flags.unicode then .error .beyondAscii
  else match namedSet? name with
    | none => .error .unknownClass
    | some (unequal, s) => return (.set (← flags.finish (negated != unequal) s), after)

/-- A condition on words. Behind the `b`, a brace with a letter or a hyphen after it opens the name
of a condition; another brace is left for a count. -/
def readEdge (flags : Flags) (text : Text) : Except Fault (Escape × Text) :=
  let boundary := .ok (.look (flags.word .boundary), text)
  match text with
  | '\x7b' :: rest =>
    match flags.skip rest with
    | [] => .error .unclosedCount
    | c :: _ =>
      if !(c.isAlpha || c = '-') then boundary
      else match flags.takeUntil? '\x7d' rest with
        | none => .error .unknownEdge
        | some (name, after) =>
          match String.ofList name with
          | "start" => .ok (.look (flags.word .start), after)
          | "end" => .ok (.look (flags.word .stop), after)
          | "start-half" => .ok (.look (flags.word .startHalf), after)
          | "end-half" => .ok (.look (flags.word .stopHalf), after)
          | _ => .error .unknownEdge
  | _ => boundary

/-- ASCII punctuation and controls stand for themselves behind a backslash. -/
def isSelf (c : Char) : Bool := c.toNat < 0x80 && !c.isAlphanum

def read (flags : Flags) : Text → Except Fault (Escape × Text)
  | [] => .error .trailingBackslash
  | 'x' :: rest => readCodePoint flags 2 rest
  | 'u' :: rest => readCodePoint flags 4 rest
  | 'U' :: rest => readCodePoint flags 8 rest
  | 'p' :: rest => readNamed flags false rest
  | 'P' :: rest => readNamed flags true rest
  | 'd' :: rest => .ok (.set flags.digits, rest)
  | 'D' :: rest => do return (.set (← flags.negate flags.digits), rest)
  | 's' :: rest => .ok (.set flags.blanks, rest)
  | 'S' :: rest => do return (.set (← flags.negate flags.blanks), rest)
  | 'w' :: rest => .ok (.set flags.wordCharacters, rest)
  | 'W' :: rest => do return (.set (← flags.negate flags.wordCharacters), rest)
  | 'a' :: rest => .ok (.literal '\x07', rest)
  | 'f' :: rest => .ok (.literal '\x0c', rest)
  | 'n' :: rest => .ok (.literal '\n', rest)
  | 'r' :: rest => .ok (.literal '\r', rest)
  | 't' :: rest => .ok (.literal '\t', rest)
  | 'v' :: rest => .ok (.literal '\x0b', rest)
  | 'A' :: rest => .ok (.look .textStart, rest)
  | 'z' :: rest => .ok (.look .textEnd, rest)
  | 'b' :: rest => readEdge flags rest
  | 'B' :: rest => .ok (.look (flags.word .interior), rest)
  | '<' :: rest => .ok (.look (flags.word .start), rest)
  | '>' :: rest => .ok (.look (flags.word .stop), rest)
  | c :: rest =>
    if c.isDigit then .error .backReference
    else if isSelf c then .ok (.literal c, rest)
    else .error (.unknownEscape c)

end Escape

end Highlighting.Pattern
