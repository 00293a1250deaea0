import Highlighting.Pattern.Escape

/-!
Bracketed classes: characters, ranges, escapes, named ASCII classes and further brackets, joined
by union, or by `&&` for what is common, `--` for a difference and `~~` for what is in one only.
-/
namespace Highlighting.Pattern

structure CharClass where
  set : CharSet
  depth : Nat
  deriving DecidableEq, Repr

namespace CharClass

inductive Join where
  | common
  | difference
  | oneOnly
  deriving DecidableEq, Repr

def Join.apply : Join → CharSet → CharSet → CharSet
  | common, a, b => .inter a b
  | difference, a, b => .diff a b
  | oneOnly, a, b => .symmDiff a b

def leaf (s : CharSet) : CharClass := ⟨s, 0⟩

/-- The union of some parts. One part alone is itself. -/
def union (parts : List CharClass) : CharClass :=
  let deepest := (parts.map (·.depth)).foldl max 0
  ⟨.unionAll (parts.map (·.set)), if parts.length < 2 then deepest else deepest + 1⟩

/-- Case is folded on both sides of a join. -/
def join (flags : Flags) (how : Join) (a b : CharClass) : CharClass :=
  ⟨how.apply (flags.fold a.set) (flags.fold b.set), max a.depth b.depth + 1⟩

def bracketed (flags : Flags) (negated : Bool) (a : CharClass) : Except Fault CharClass := do
  return ⟨← flags.finish negated a.set, a.depth + 1⟩

def named? : String → Option CharSet
  | "alnum" => some (.union .asciiDigit .asciiLetter)
  | "alpha" => some .asciiLetter
  | "ascii" => some .ascii
  | "blank" => some (.ofList ['\t', ' '])
  | "cntrl" => some (.union (.range '\x00' '\x1f') (.single '\x7f'))
  | "digit" => some .asciiDigit
  | "graph" => some (.range '!' '~')
  | "lower" => some (.range 'a' 'z')
  | "print" => some (.range ' ' '~')
  | "punct" => some (.unionAll [.range '!' '/', .range ':' '@', .range '[' '\x60',
      .range '\x7b' '~'])
  | "space" => some .asciiBlank
  | "upper" => some (.range 'A' 'Z')
  | "word" => some .asciiWord
  | "xdigit" => some (.unionAll [.asciiDigit, .range 'A' 'F', .range 'a' 'f'])
  | _ => none

def readNamed? : Text → Option (Bool × CharSet × Text)
  | ':' :: rest =>
    let (negated, body) := match rest with
      | '^' :: more => (true, more)
      | _ => (false, rest)
    match body.dropWhile (· ≠ ':') with
    | ':' :: ']' :: after =>
      (named? (String.ofList (body.takeWhile (· ≠ ':')))).map fun s => (negated, s, after)
    | _ => none
  | _ => none

def readItem (flags : Flags) : Text → Except Fault (Escape × Text)
  | '\\' :: rest => Escape.read flags rest
  | c :: rest => .ok (.literal c, rest)
  | [] => .error .unclosedClass

def ofItem (flags : Flags) : Escape → Except Fault CharSet
  | .literal c => if flags.admits c then .ok (.single c) else .error .beyondAscii
  | .set s => .ok s
  | .look _ => .error .lookInClass

def ofRange (flags : Flags) : Escape → Escape → Except Fault CharSet
  | .literal a, .literal b =>
    if b < a then .error .decreasingRange
    else if flags.admits b then .ok (.range a b)
    else .error .beyondAscii
  | _, _ => .error .rangeOfSets

/-- The character that a hyphen is told apart by, which is the next one that counts. Behind the first
hash sign of a comment only white space is passed over. -/
def behindHyphen? (flags : Flags) (text : Text) : Option Char :=
  if flags.verbose then
    match text.dropWhile Unicode.isBlank with
    | '#' :: rest => (rest.dropWhile Unicode.isBlank)[0]?
    | rest => rest[0]?
  else text[0]?

/-- Reads an item or a range. A hyphen before a closing bracket or another hyphen makes no range. -/
def readRange (flags : Flags) (text : Text) : Except Fault (CharSet × Text) := do
  let (first, rest) ← readItem flags text
  match flags.skip rest with
  | [] => .error .unclosedClass
  | '-' :: more =>
    if behindHyphen? flags more = some ']' ∨ behindHyphen? flags more = some '-' then
      return (← ofItem flags first, '-' :: more)
    else
      let (last, after) ← readItem flags (flags.skip more)
      return (← ofRange flags first last, after)
  | rest => return (← ofItem flags first, rest)

/-- Hyphens at the beginning of a class are literal. -/
def readHyphens (flags : Flags) : (rounds : Nat) → Text → List CharClass × Text
  | rounds + 1, '-' :: rest =>
    let (parts, after) := readHyphens flags rounds (flags.skip rest)
    (leaf (.single '-') :: parts, after)
  | _, text => ([], text)

/-- Without hyphens, a closing bracket at the beginning of a class is literal. -/
def readLeading (flags : Flags) (text : Text) : List CharClass × Text :=
  match readHyphens flags text.length text with
  | ([], ']' :: rest) => ([leaf (.single ']')], rest)
  | leading => leading

def readNegation (flags : Flags) : Text → Bool × Text
  | '^' :: rest => (true, flags.skip rest)
  | text => (false, text)

def joined (flags : Flags) (before : Option (CharClass × Join)) (parts : List CharClass) :
    CharClass :=
  match before with
  | none => union parts
  | some (left, how) => join flags how left (union parts)

/-- Reads the rest of a class: `parts` are those since the last join, `before` is what that join
has on its left. Every round takes at least one character, so the length of the text suffices. -/
def readParts (flags : Flags) :
    (rounds : Nat) → (before : Option (CharClass × Join)) → (parts : List CharClass) → Text →
    Except Fault (CharClass × Text)
  | 0, _, _, _ => .error .unclosedClass
  | rounds + 1, before, parts, text =>
    let joinBy (how : Join) (rest : Text) :=
      readParts flags rounds (some (joined flags before parts, how)) [] rest
    match flags.skip text with
    | [] => .error .unclosedClass
    | ']' :: rest => .ok (joined flags before parts, rest)
    | '&' :: '&' :: rest => joinBy .common rest
    | '-' :: '-' :: rest => joinBy .difference rest
    | '~' :: '~' :: rest => joinBy .oneOnly rest
    | '[' :: rest =>
      match readNamed? rest with
      | some (negated, s, after) => do
        let s ← flags.finish negated s
        readParts flags rounds before (leaf s :: parts) after
      | none => do
        let (negated, inside) := readNegation flags (flags.skip rest)
        let (leading, more) := readLeading flags inside
        let (inner, after) ← readParts flags rounds none leading more
        readParts flags rounds before ((← bracketed flags negated inner) :: parts) after
    | text => do
      let (s, after) ← readRange flags text
      readParts flags rounds before (leaf s :: parts) after

def read (flags : Flags) (text : Text) : Except Fault (CharClass × Text) := do
  let (negated, inside) := readNegation flags (flags.skip text)
  let (leading, rest) := readLeading flags inside
  let (inner, after) ← readParts flags (text.length + 1) none leading rest
  return (← bracketed flags negated inner, after)

end CharClass

end Highlighting.Pattern
