import Highlighting.Pattern.CharClass
import Highlighting.Pattern.Footprint

/-!
Reading a pattern from its text. Open groups are kept on a stack; each holds the alternatives and
the items read so far, so that one pass from left to right builds the expression.
-/
namespace Highlighting.Pattern

/-- An open group: the flags to return to when it closes, the group it records, and what has been
read of it, latest first. -/
structure Level where
  outerFlags : Flags
  group : Option Nat
  alternatives : List Expression
  items : List Expression

namespace Level

def start (outerFlags : Flags) (group : Option Nat) : Level := ⟨outerFlags, group, [], []⟩

def add (level : Level) (e : Expression) : Level := { level with items := e :: level.items }

def current (level : Level) : Expression := .inOrder level.items.reverse

def bar (level : Level) : Level :=
  { level with alternatives := level.current :: level.alternatives, items := [] }

def expression (level : Level) : Expression :=
  .oneOf (level.current :: level.alternatives).reverse

end Level

structure Progress where
  flags : Flags
  groups : Nat
  names : List Text
  level : Level
  outer : List Level

namespace Progress

def initial : Progress := ⟨.initial, 0, [], .start .initial none, []⟩

def add (s : Progress) (e : Expression) : Progress := { s with level := s.level.add e }

def literal (s : Progress) (c : Char) : Progress := s.add (.set (s.flags.char c) 0)

def openGroup (s : Progress) (flags : Flags) (group : Option Nat) : Progress :=
  { s with flags := flags, level := .start s.flags group, outer := s.level :: s.outer }

def openRecording (s : Progress) : Progress :=
  { s.openGroup s.flags (some (s.groups + 1)) with groups := s.groups + 1 }

def setFlags (s : Progress) (flags : Flags) : Progress := { s.add .flags with flags := flags }

def closeGroup (s : Progress) : Except Fault Progress :=
  match s.outer with
  | [] => .error .unopenedGroup
  | level :: outer =>
    .ok { s with
      flags := s.level.outerFlags
      level := level.add (.group s.level.group s.level.expression)
      outer := outer }

def finish (s : Progress) : Except Fault Expression :=
  match s.outer with
  | [] => .ok s.level.expression
  | _ :: _ => .error .unclosedGroup

def last (s : Progress) : Except Fault (Expression × List Expression) :=
  match s.level.items with
  | [] | .flags :: _ => .error .nothingToRepeat
  | e :: items => .ok (e, items)

def repeatLast (s : Progress) (count : Count) (greedy : Bool) : Except Fault Progress := do
  let (e, items) ← s.last
  return { s with level := { s.level with items := .repeated e count greedy :: items } }

end Progress

namespace Parser

/-- A question mark behind a repetition turns its greed around. -/
def readGreed (flags : Flags) : Text → Bool × Text
  | '?' :: rest => (flags.swapGreed, rest)
  | rest => (!flags.swapGreed, rest)

def readNumber (flags : Flags) (text : Text) : Option Nat × Text :=
  let (digits, rest) := flags.takeWhile Char.isDigit false (text.dropWhile Unicode.isBlank)
  (if digits = [] then none else Text.number? 10 digits,
    flags.skip (rest.dropWhile Unicode.isBlank))

/-- Counts are numbers of 32 bits. -/
def maxCount : Nat := 0xFFFFFFFF

def makeCount (least : Nat) (most : Option Nat) : Except Fault Count :=
  if maxCount < least ∨ most.any (maxCount < ·) then .error .badCount
  else if most.any (· < least) then .error .decreasingCount
  else .ok ⟨least, most⟩

def readCount (flags : Flags) (text : Text) : Except Fault (Count × Text) :=
  match readNumber flags (flags.skip text) with
  | (_, []) => .error .unclosedCount
  | (none, _) => .error .emptyCount
  | (some n, '\x7d' :: after) => do return (← makeCount n (some n), after)
  | (some least, ',' :: rest) =>
    match flags.skip rest with
    | '\x7d' :: after => do return (← makeCount least none, after)
    | rest =>
      match readNumber flags rest with
      | (some most, '\x7d' :: after) => do return (← makeCount least (some most), after)
      | (none, _) => .error .emptyCount
      | (some _, _) => .error .unclosedCount
  | (some _, _) => .error .unclosedCount

/-- Reads flags up to the colon or bracket behind them; `seen` are the letters so far. -/
def readFlags (value : Bool) (flags : Flags) (seen : List Char) :
    Text → Except Fault (Flags × Bool × Text)
  | [] => .error .unclosedFlags
  | ')' :: rest =>
    if seen = [] then .error .nothingToRepeat
    else if seen.head? = some '-' then .error .danglingNegation
    else .ok (flags, false, rest)
  | ':' :: rest =>
    if seen.head? = some '-' then .error .danglingNegation else .ok (flags, true, rest)
  | c :: rest =>
    if c ∈ seen then .error .repeatedFlag
    else if c = '-' then readFlags false flags (c :: seen) rest
    else match flags.switch? value c with
      | none => .error (.unknownFlag c)
      | some flags => readFlags value flags (c :: seen) rest

def isGroupName : Text → Bool
  | [] => false
  | c :: rest =>
    (c = '_' || CharSet.alphabetic.contains c) &&
      rest.all fun d =>
        d = '_' || d = '.' || d = '[' || d = ']' || CharSet.alphabetic.contains d ||
          CharSet.number.contains d

def readNamed (s : Progress) (text : Text) : Except Fault (Progress × Text) :=
  match text.dropWhile (· ≠ '>') with
  | [] => .error .badGroupName
  | _ :: after =>
    let name := text.takeWhile (· ≠ '>')
    if !isGroupName name then .error .badGroupName
    else if name ∈ s.names then .error (.repeatedGroupName name)
    else .ok ({ s.openRecording with names := name :: s.names }, after)

def readOpening (s : Progress) : Text → Except Fault (Progress × Text)
  | '?' :: '=' :: _ | '?' :: '!' :: _ | '?' :: '<' :: '=' :: _ | '?' :: '<' :: '!' :: _ =>
    .error .lookAround
  | '?' :: 'P' :: '<' :: rest => readNamed s rest
  | '?' :: '<' :: rest => readNamed s rest
  | '?' :: rest => do
    let (flags, opens, after) ← readFlags true s.flags [] rest
    return (if opens then s.openGroup flags none else s.setFlags flags, after)
  | rest => .ok (s.openRecording, rest)

def readPart (s : Progress) : Char → Text → Except Fault (Progress × Text)
  | '(', rest => readOpening s (s.flags.skip rest)
  | ')', rest => do return (← s.closeGroup, rest)
  | '|', rest => .ok ({ s with level := s.level.bar }, rest)
  | '[', rest => do
    let (cls, after) ← CharClass.read s.flags rest
    return (s.add (.set cls.set cls.depth), after)
  | '^', rest => .ok (s.add (.look s.flags.startLook), rest)
  | '$', rest => .ok (s.add (.look s.flags.endLook), rest)
  | '.', rest => do return (s.add (.set (← s.flags.dot) 0), rest)
  | '?', rest => repeatBy s .optional rest
  | '*', rest => repeatBy s .any rest
  | '+', rest => repeatBy s .oneOrMore rest
  | '\x7b', rest => do
    let _ ← s.last
    let (count, after) ← readCount s.flags rest
    repeatBy s count (s.flags.skip after)
  | '\\', rest => do
    match ← Escape.read s.flags rest with
    | (.literal c, after) => return (s.literal c, after)
    | (.set cls, after) => return (s.add (.set cls 0), after)
    | (.look l, after) => return (s.add (.look l), after)
  | c, rest => .ok (s.literal c, rest)
where
  repeatBy (s : Progress) (count : Count) (rest : Text) : Except Fault (Progress × Text) := do
    let (greedy, after) := readGreed s.flags rest
    return (← s.repeatLast count greedy, after)

/-- Reads part after part. Every part takes at least one character, so the length of the text
suffices. -/
def readParts : (rounds : Nat) → Progress → Text → Except Fault Expression
  | 0, s, _ => s.finish
  | rounds + 1, s, text =>
    match s.flags.skip text with
    | [] => s.finish
    | c :: rest => do
      let (s, after) ← readPart s c rest
      readParts rounds s after

end Parser

def Expression.parse (text : Text) : Except Fault Expression :=
  Parser.readParts (text.length + 1) .initial text

def maxDepth : Nat := 250

def maxFootprint : Nat := 10485760

def parse (text : Text) : Except Fault Pattern := do
  let e ← Expression.parse text
  if maxDepth < e.depth then .error .tooDeep
  else if maxFootprint < e.footprint then .error .tooLarge
  else return e.pattern

end Highlighting.Pattern
