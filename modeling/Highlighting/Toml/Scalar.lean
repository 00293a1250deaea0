import Highlighting.Text.Bytes
import Highlighting.Text.Digits
import Highlighting.Toml.Value

/-!
Numbers, truth values and moments in time. All of them are written without blanks, except that one
blank may stand between a date and a time.
-/
namespace Highlighting.Toml

/-- Digits of a base, with single underscores between them. -/
def digits? (base : Nat) (text : Text) : Option Text :=
  match text with
  | [] => none
  | [c] => (Text.digitIn? base c).map fun _ => [c]
  | c :: '_' :: rest => do
    let _ ← Text.digitIn? base c
    return c :: (← digits? base rest)
  | c :: rest => do
    let _ ← Text.digitIn? base c
    return c :: (← digits? base rest)

def splitSign : Text → Bool × Text
  | '-' :: rest => (true, rest)
  | '+' :: rest => (false, rest)
  | text => (false, text)

def wholeDigits? (text : Text) : Option Text :=
  match digits? 10 text with
  | some ('0' :: _ :: _) => none
  | ds => ds

/-- Integers have 64 bits. -/
def inRange (n : Int) : Bool := -9223372036854775808 ≤ n && n ≤ 9223372036854775807

def integer? (text : Text) : Option Int :=
  let signed : Option Int :=
    match text with
    | '0' :: 'x' :: rest => ((digits? 16 rest).bind (Text.number? 16)).map Int.ofNat
    | '0' :: 'o' :: rest => ((digits? 8 rest).bind (Text.number? 8)).map Int.ofNat
    | '0' :: 'b' :: rest => ((digits? 2 rest).bind (Text.number? 2)).map Int.ofNat
    | _ =>
      let (negative, rest) := splitSign text
      ((wholeDigits? rest).bind (Text.number? 10)).map fun n =>
        if negative then -(n : Int) else n
  signed.filter inRange

/-- A number with a fraction, an exponent or both: its digits without the point, how many of them
stand behind the point, and the exponent. -/
structure Decimal where
  negative : Bool
  digits : Text
  places : Nat
  exponent : Int

def exponent? (text : Text) : Option Int :=
  let (negative, rest) := splitSign text
  ((digits? 10 rest).bind (Text.number? 10)).map fun n => if negative then -(n : Int) else n

def decimal? (text : Text) : Option Decimal := do
  let (negative, rest) := splitSign text
  let isE (c : Char) := c = 'e' || c = 'E'
  let mantissa := rest.takeWhile (!isE ·)
  let tail := rest.dropWhile (!isE ·)
  let whole ← wholeDigits? (mantissa.takeWhile (· ≠ '.'))
  let fraction ← match mantissa.dropWhile (· ≠ '.') with
    | [] => some []
    | _ :: ds => digits? 10 ds
  let exponent ← match tail with
    | [] => some 0
    | _ :: ds => exponent? ds
  if fraction = [] ∧ tail = [] then none
  else return ⟨negative, whole ++ fraction, fraction.length, exponent⟩

/-- The least number that is too large for a binary floating-point number of 64 bits. -/
def floatLimit : Nat := Nat.pow 2 1024 - Nat.pow 2 970

/-- Whether a positive number is too large. A number of fewer than 309 digits before the point is
not, one of more than 309 is. -/
def Decimal.overflows (d : Decimal) : Bool :=
  let significant := d.digits.dropWhile (· = '0')
  let scale := d.exponent - (d.places : Int)
  let size := (significant.length : Int) + scale
  if d.negative ∨ significant = [] ∨ size < 309 then false
  else if 309 < size then true
  else
    let n := (Text.number? 10 significant).getD 0
    floatLimit * Nat.pow 10 (-scale).toNat ≤ n * Nat.pow 10 scale.toNat

/-- Infinity and the undefined number have names; other numbers may not be too large. -/
def isFloat (text : Text) : Bool :=
  match (splitSign text).2 with
  | ['i', 'n', 'f'] => true
  | ['n', 'a', 'n'] => true
  | _ => match decimal? text with
    | some d => !d.overflows
    | none => false

def isLeapYear (year : Nat) : Bool :=
  year % 4 = 0 && (year % 100 ≠ 0 || year % 400 = 0)

def daysIn (year month : Nat) : Nat :=
  if month = 2 then (if isLeapYear year then 29 else 28)
  else if month ∈ [4, 6, 9, 11] then 30
  else 31

def fixed? (width : Nat) (text : Text) : Option (Nat × Text) :=
  if text.length < width then none
  else (Text.number? 10 (text.take width)).map fun n => (n, text.drop width)

def skipDate? (text : Text) : Option Text := do
  let (year, rest) ← fixed? 4 text
  let '-' :: rest := rest | none
  let (month, rest) ← fixed? 2 rest
  let '-' :: rest := rest | none
  let (day, rest) ← fixed? 2 rest
  if 1 ≤ month ∧ month ≤ 12 ∧ 1 ≤ day ∧ day ≤ daysIn year month then some rest else none

def skipMinutes? (lastHour : Nat) (text : Text) : Option Text := do
  let (hour, rest) ← fixed? 2 text
  let ':' :: rest := rest | none
  let (minute, rest) ← fixed? 2 rest
  if hour ≤ lastHour ∧ minute ≤ 59 then some rest else none

/-- The rest behind a time of day. A minute may have a leap second. -/
def skipTime? (lastHour : Nat) (text : Text) : Option Text := do
  let rest ← skipMinutes? lastHour text
  let ':' :: rest := rest | none
  let (second, rest) ← fixed? 2 rest
  if 60 < second then none
  else match rest with
    | '.' :: c :: rest => if c.isDigit then some (rest.dropWhile Char.isDigit) else none
    | '.' :: [] => none
    | rest => some rest

/-- How strictly moments are read: the last hour of a day, and which distances to universal time
count. -/
structure Clock where
  lastHour : Nat
  isDistance : Text → Bool

namespace Clock

def isOffset (clock : Clock) : Text → Bool
  | [] => true
  | ['Z'] => true
  | ['z'] => true
  | '+' :: rest => clock.isDistance rest
  | '-' :: rest => clock.isDistance rest
  | _ => false

def isTimeWithOffset (clock : Clock) (text : Text) : Bool :=
  match skipTime? clock.lastHour text with
  | some rest => clock.isOffset rest
  | none => false

def isMoment (clock : Clock) (text : Text) : Bool :=
  match skipDate? text with
  | some [] => true
  | some (c :: rest) => (c = 'T' || c = 't' || c = ' ') && clock.isTimeWithOffset rest
  | none => skipTime? clock.lastHour text = some []

def strict : Clock := ⟨23, fun text => skipMinutes? 23 text = some []⟩

/-- A distance of a day at most, in which minutes may exceed an hour. -/
def isWithinDay (text : Text) : Bool :=
  match fixed? 2 text with
  | some (hours, ':' :: rest) =>
    match fixed? 2 rest with
    | some (minutes, []) => hours * 60 + minutes ≤ 24 * 60
    | _ => false
  | _ => false

/-- The clock of moments that are written as strings. A day may end with its hour 24. -/
def lenient : Clock := ⟨24, isWithinDay⟩

end Clock

def isScalarChar (c : Char) : Bool :=
  c.isAlphanum || c = '_' || c = '+' || c = '-' || c = '.' || c = ':'

def scalar? (text : Text) : Option Value :=
  if text = ['t', 'r', 'u', 'e'] then some (.boolean true)
  else if text = ['f', 'a', 'l', 's', 'e'] then some (.boolean false)
  else if Clock.strict.isMoment text then some .moment
  else match integer? text with
    | some n => some (.integer n)
    | none => if isFloat text then some .float else none

/-- Reads a scalar. A blank and a digit behind a date belong to it. -/
def readScalar (text : Text) : Option (Value × Text) :=
  let word := text.takeWhile isScalarChar
  let rest := text.dropWhile isScalarChar
  match rest with
  | ' ' :: c :: more =>
    if c.isDigit && skipDate? word = some [] then
      let time := (c :: more).takeWhile isScalarChar
      (scalar? (word ++ ' ' :: time)).map fun v => (v, (c :: more).dropWhile isScalarChar)
    else (scalar? word).map fun v => (v, rest)
  | _ => (scalar? word).map fun v => (v, rest)

end Highlighting.Toml
