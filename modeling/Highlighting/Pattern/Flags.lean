import Highlighting.Pattern.Fault
import Highlighting.Pattern.Look
import Highlighting.Text.Bytes

/-!
Switches for the reading of a pattern. They hold up to the end of the group in which they are set.
-/
namespace Highlighting.Pattern

structure Flags where
  ignoreCase : Bool
  multiLine : Bool
  dotAll : Bool
  swapGreed : Bool
  unicode : Bool
  /-- White space and comments do not count. -/
  verbose : Bool
  crlf : Bool
  deriving DecidableEq, Repr

namespace Flags

def initial : Flags := ⟨false, false, false, false, true, false, false⟩

def switch? (flags : Flags) (value : Bool) : Char → Option Flags
  | 'i' => some { flags with ignoreCase := value }
  | 'm' => some { flags with multiLine := value }
  | 's' => some { flags with dotAll := value }
  | 'U' => some { flags with swapGreed := value }
  | 'u' => some { flags with unicode := value }
  | 'x' => some { flags with verbose := value }
  | 'R' => some { flags with crlf := value }
  | _ => none

/-- Takes characters as long as they pass a test, without those that do not count. A comment goes
from a hash sign to the end of its line. -/
def takeWhile (flags : Flags) (test : Char → Bool) : (inComment : Bool) → Text → Text × Text
  | _, [] => ([], [])
  | true, c :: rest => takeWhile flags test (c ≠ '\n') rest
  | false, c :: rest =>
    if flags.verbose && c = '#' then takeWhile flags test true rest
    else if flags.verbose && Unicode.isBlank c then takeWhile flags test false rest
    else if test c then
      let (taken, after) := takeWhile flags test false rest
      (c :: taken, after)
    else ([], c :: rest)

def skip (flags : Flags) (text : Text) : Text := (flags.takeWhile (fun _ => false) false text).2

def takeUntil? (flags : Flags) (close : Char) (text : Text) : Option (Text × Text) :=
  match flags.takeWhile (· ≠ close) false text with
  | (_, []) => none
  | (taken, _ :: after) => some (taken, after)

def admits (flags : Flags) (c : Char) : Bool := flags.unicode || c.toNat < 0x80

def fold (flags : Flags) (s : CharSet) : CharSet :=
  if !flags.ignoreCase then s else if flags.unicode then .folded s else .foldedAscii s

/-- The complement of a set holds more than ASCII. -/
def negate (flags : Flags) (s : CharSet) : Except Fault CharSet :=
  if flags.unicode then .ok (.compl s) else .error .beyondAscii

/-- A finished set. Case is folded before the set is negated. -/
def finish (flags : Flags) (negated : Bool) (s : CharSet) : Except Fault CharSet :=
  if negated then flags.negate (flags.fold s) else .ok (flags.fold s)

def char (flags : Flags) (c : Char) : CharSet :=
  if !flags.ignoreCase then .single c
  else if flags.unicode then .ofList (Unicode.caseVariants c)
  else if c.isAlpha then .ofList [c.toLower, c.toUpper]
  else .single c

def dot (flags : Flags) : Except Fault CharSet :=
  if !flags.unicode then .error .beyondAscii
  else if flags.dotAll then .ok .any
  else if flags.crlf then .ok (.compl (.ofList ['\n', '\r']))
  else .ok .inLine

def startLook (flags : Flags) : Look :=
  if flags.multiLine then .lineStart flags.crlf else .textStart

def endLook (flags : Flags) : Look :=
  if flags.multiLine then .lineEnd flags.crlf else .textEnd

def word (flags : Flags) (edge : WordEdge) : Look := .word edge !flags.unicode

def digits (flags : Flags) : CharSet := if flags.unicode then .digit else .asciiDigit

def blanks (flags : Flags) : CharSet := if flags.unicode then .blank else .asciiBlank

def wordCharacters (flags : Flags) : CharSet := if flags.unicode then .word else .asciiWord

end Flags

end Highlighting.Pattern
