import Highlighting.Toml.Lexeme
import Highlighting.Toml.Scalar
import Highlighting.Toml.Tables

/-!
Reading a whole TOML document: values, then line after line, then the table that the lines define.
-/
namespace Highlighting.Toml

def inlineTable? (pairs : List (List String × Value)) : Option Entries :=
  pairs.foldlM (fun entries (key, value) => Entries.insert value .inline false key entries) []

mutual

/-- Reads a value that lies in at most `depth` arrays and inline tables more. -/
def readValue : (rounds depth : Nat) → Read Value
  | 0, _, _ => none
  | rounds + 1, depth, text =>
    match text with
    | '"' :: _ | '\'' :: _ => (readString text).map fun (s, rest) => (.string s, rest)
    | '[' :: rest =>
      match depth with
      | 0 => none
      | depth + 1 => (readItems rounds depth rest).map fun (items, rest) => (.array items, rest)
    | '\x7b' :: rest =>
      match depth, skipBlanks rest with
      | 0, _ => none
      | _, '\x7d' :: rest => some (.table .inline [], rest)
      | depth + 1, rest => do
        let (pairs, rest) ← readPairs rounds depth rest
        return (.table .inline (← inlineTable? pairs), rest)
    | _ => readScalar text

/-- Reads the items of an array and its closing bracket. A comma may stand behind the last item. -/
def readItems : (rounds depth : Nat) → Read (List Value)
  | 0, _, _ => none
  | rounds + 1, depth, text =>
    match skipLines text.length text with
    | ']' :: rest => some ([], rest)
    | text => do
      let (item, rest) ← readValue rounds depth text
      match skipLines rest.length rest with
      | ',' :: rest =>
        let (items, rest) ← readItems rounds depth rest
        return (item :: items, rest)
      | ']' :: rest => return ([item], rest)
      | _ => none

def readPairs : (rounds depth : Nat) → Read (List (List String × Value))
  | 0, _, _ => none
  | rounds + 1, depth, text => do
    let (key, rest) ← readKey text
    let '=' :: rest := rest | none
    let (value, rest) ← readValue rounds depth (skipBlanks rest)
    match skipBlanks rest with
    | ',' :: rest =>
      let (pairs, rest) ← readPairs rounds depth rest
      return ((key, value) :: pairs, rest)
    | '\x7d' :: rest => return ([(key, value)], rest)
    | _ => none

end

inductive Line where
  | header (path : List String) (key : String)
  | element (path : List String) (key : String)
  | pair (key : List String) (value : Value)

def splitLast? (key : List String) : Option (List String × String) :=
  key.getLast?.map fun last => (key.dropLast, last)

def readLine (text : Text) : Option (Line × Text) :=
  match text with
  | '[' :: '[' :: rest => do
    let (key, rest) ← readKey rest
    let ']' :: ']' :: rest := rest | none
    let (path, last) ← splitLast? key
    return (.element path last, rest)
  | '[' :: rest => do
    let (key, rest) ← readKey rest
    let ']' :: rest := rest | none
    let (path, last) ← splitLast? key
    return (.header path last, rest)
  | _ => do
    let (key, rest) ← readKey text
    let '=' :: rest := rest | none
    let (value, rest) ← readValue (rest.length + 1) (depthLimit - 1) (skipBlanks rest)
    return (.pair key value, rest)

def readLines : (rounds : Nat) → Text → Option (List Line)
  | 0, _ => none
  | rounds + 1, text =>
    match skipLines text.length text with
    | [] => some []
    | text => do
      let (line, rest) ← readLine text
      return line :: (← readLines rounds (← endOfLine? rest))

structure Building where
  root : Entries
  path : List String

def Building.add (b : Building) : Line → Option Building
  | .header path key => do
    return ⟨← Entries.underHeader (Entries.openTable key) path b.root, path ++ [key]⟩
  | .element path key => do
    return ⟨← Entries.underHeader (Entries.openElement key) path b.root, path ++ [key]⟩
  | .pair key value => do
    return ⟨← Entries.underHeader (Entries.insert value .header false key) b.path b.root, b.path⟩

/-- The first key of a table that stands for a moment. -/
def momentKey : String := "$__toml_private_datetime"

mutual

/-- Replaces tables that stand for a moment, wherever they are. The text of the moment has to be
valid, and what else is in such a table does not count. -/
def settle? : Value → Option Value
  | .array items => do return .array (← settleItems? items)
  | .table origin entries => settleTable? origin entries
  | .tables elements => do return .array (← settleElements? elements)
  | value => some value

def settleTable? (origin : Origin) : Entries → Option Value
  | [] => some (.table origin [])
  | (key, value) :: rest =>
    if key = momentKey then
      match value with
      | .string s => if Clock.lenient.isMoment s.toList then some .moment else none
      | _ => none
    else do
      let first ← settle? value
      return .table origin ((key, first) :: (← settleEntries? rest))

def settleEntries? : Entries → Option Entries
  | [] => some []
  | (key, value) :: rest => do
    let first ← settle? value
    return (key, first) :: (← settleEntries? rest)

def settleItems? : List Value → Option (List Value)
  | [] => some []
  | value :: rest => do return (← settle? value) :: (← settleItems? rest)

def settleElements? : List Entries → Option (List Value)
  | [] => some []
  | entries :: rest => do return (← settleTable? .header entries) :: (← settleElements? rest)

end

/-- A byte order mark in front of a document does not count. -/
def skipMark : Text → Text
  | '\ufeff' :: rest => rest
  | text => text

def parse? (document : Text) : Option Entries := do
  let text := skipMark document
  let lines ← readLines (text.length + 1) text
  let built ← lines.foldlM Building.add ⟨[], []⟩
  settleEntries? built.root

end Highlighting.Toml
