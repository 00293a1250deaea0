import Highlighting.Text.Bytes
import Highlighting.Text.Digits

/-!
Blanks, line ends, comments, strings and keys of TOML. Each reader takes the beginning of a text and
gives what it read with the rest, or nothing if the text does not begin that way.
-/
namespace Highlighting.Toml

abbrev Read (α : Type) := Text → Option (α × Text)

def isBlank (c : Char) : Bool := c = ' ' || c = '\t'

def skipBlanks (text : Text) : Text := text.dropWhile isBlank

/-- Characters that may stand in a comment: all but controls, tabs excepted. -/
def isPlain (c : Char) : Bool := c = '\t' || (' ' ≤ c && c ≠ '\x7f')

def newline? : Text → Option Text
  | '\n' :: rest => some rest
  | '\r' :: '\n' :: rest => some rest
  | _ => none

def skipComment : Text → Text
  | '#' :: rest => rest.dropWhile isPlain
  | text => text

def endOfLine? (text : Text) : Option Text :=
  match skipComment (skipBlanks text) with
  | [] => some []
  | rest => newline? rest

def skipLines : (rounds : Nat) → Text → Text
  | 0, text => text
  | rounds + 1, text =>
    let rest := skipComment (skipBlanks text)
    match newline? rest with
    | some next => skipLines rounds next
    | none => rest

def readCodePoint (width : Nat) : Read Char := fun text =>
  if text.length < width then none
  else match Text.number? 16 (text.take width) with
    | some n => if n.isValidChar then some (Char.ofNat n, text.drop width) else none
    | none => none

def readEscape : Read Char
  | 'b' :: rest => some ('\x08', rest)
  | 't' :: rest => some ('\t', rest)
  | 'n' :: rest => some ('\n', rest)
  | 'f' :: rest => some ('\x0c', rest)
  | 'r' :: rest => some ('\r', rest)
  | '"' :: rest => some ('"', rest)
  | '\\' :: rest => some ('\\', rest)
  | 'u' :: rest => readCodePoint 4 rest
  | 'U' :: rest => readCodePoint 8 rest
  | _ => none

/-- The rest behind a line break that a backslash takes out of a string, with the blanks and line
breaks after it. -/
def foldedLine? (text : Text) : Option Text :=
  (newline? (skipBlanks text)).map fun rest => skipMore rest.length rest
where
  skipMore : Nat → Text → Text
    | 0, text => text
    | rounds + 1, text =>
      let rest := skipBlanks text
      match newline? rest with
      | some next => skipMore rounds next
      | none => rest

/-- The rest of a string on one line, behind its opening quote. Backslashes escape between double
quotes only. -/
def readLineString (quote : Char) : (rounds : Nat) → Read Text
  | 0, _ => none
  | _ + 1, [] => none
  | rounds + 1, c :: rest =>
    if c = quote then some ([], rest)
    else if c = '\\' ∧ quote = '"' then do
      let (d, rest) ← readEscape rest
      let (s, rest) ← readLineString quote rounds rest
      return (d :: s, rest)
    else if isPlain c then do
      let (s, rest) ← readLineString quote rounds rest
      return (c :: s, rest)
    else none

/-- The rest of a string over several lines, behind its first line break. It ends at three quotes;
up to two more just before them belong to it. -/
def readBlockString (quote : Char) : (rounds : Nat) → Read Text
  | 0, _ => none
  | _ + 1, [] => none
  | rounds + 1, c :: rest =>
    if c = quote then
      let run := (c :: rest).takeWhile (· = quote)
      let behind := (c :: rest).dropWhile (· = quote)
      if 3 ≤ run.length then
        let own := min (run.length - 3) 2
        some (List.replicate own quote, (run.drop (own + 3)) ++ behind)
      else do
        let (s, rest) ← readBlockString quote rounds behind
        return (run ++ s, rest)
    else if c = '\\' ∧ quote = '"' then
      match foldedLine? rest with
      | some rest => readBlockString quote rounds rest
      | none => do
        let (d, rest) ← readEscape rest
        let (s, rest) ← readBlockString quote rounds rest
        return (d :: s, rest)
    else if isPlain c then do
      let (s, rest) ← readBlockString quote rounds rest
      return (c :: s, rest)
    else do
      let rest ← newline? (c :: rest)
      let (s, rest) ← readBlockString quote rounds rest
      return ('\n' :: s, rest)

def readString : Read String := fun text =>
  match text with
  | '"' :: '"' :: '"' :: rest => block '"' rest
  | '\'' :: '\'' :: '\'' :: rest => block '\'' rest
  | '"' :: rest => line '"' rest
  | '\'' :: rest => line '\'' rest
  | _ => none
where
  line (quote : Char) (rest : Text) : Option (String × Text) :=
    (readLineString quote (rest.length + 1) rest).map fun (s, rest) => (String.ofList s, rest)
  block (quote : Char) (rest : Text) : Option (String × Text) :=
    let body := (newline? rest).getD rest
    (readBlockString quote (body.length + 1) body).map fun (s, rest) => (String.ofList s, rest)

def isBare (c : Char) : Bool := c.isAlphanum || c = '_' || c = '-'

def readKeyPart : Read String
  | '"' :: rest => readString.line '"' rest
  | '\'' :: rest => readString.line '\'' rest
  | text =>
    match text.takeWhile isBare with
    | [] => none
    | name => some (String.ofList name, text.dropWhile isBare)

def readKeyFrom : (rounds : Nat) → Read (List String)
  | 0, _ => none
  | rounds + 1, text => do
    let (part, rest) ← readKeyPart (skipBlanks text)
    match skipBlanks rest with
    | '.' :: more => do
      let (parts, rest) ← readKeyFrom rounds more
      return (part :: parts, rest)
    | rest => return ([part], rest)

def depthLimit : Nat := 80

def readKey : Read (List String) := readKeyFrom (depthLimit - 1)

end Highlighting.Toml
