import Highlighting.Pattern.Basic

/-!
Patterns for the lexemes of languages: numbers, strings, comments, and the parts of markup and style
sheets.
-/
namespace Highlighting.Lexeme

open Pattern
open CharSet (asciiLetter asciiDigit)

def hexDigit : CharSet := .union asciiDigit (.union (.range 'a' 'f') (.range 'A' 'F'))

def oneOfChars (chars : List Char) : Pattern := set (.ofList chars)

def text (s : String) : Pattern := literal s.toList false

def digits : Pattern := loop (set .digit) true

def blanks : Pattern := star (set .blank) true

def restOfLine : Pattern := star (set .inLine) true

def number : Pattern :=
  inOrder [
    optional (oneOfChars ['-', '+']) true,
    look .wordBoundary,
    digits,
    optional (seq (char '.') digits) true,
    optional (inOrder [oneOfChars ['e', 'E'], optional (oneOfChars ['+', '-']) true, digits]) true,
    look .wordBoundary]

def escape : Pattern := seq (char '\\') (set .inLine)

def stringBody (quote : Char) : Pattern :=
  star (alt escape (set (.compl (.ofList [quote, '\\'])))) true

def quotedString (quote : Char) : Pattern :=
  inOrder [char quote, stringBody quote, char quote]

def tripleQuote (quote : Char) : Pattern := exactly (char quote) 3

/-- A string between triple quotes that holds no quote of this kind unless it is escaped. -/
def tripleString (quote : Char) : Pattern :=
  inOrder [tripleQuote quote, stringBody quote, tripleQuote quote]

/-- A string between backquotes. A backslash may also stand alone. -/
def template : Pattern :=
  inOrder [char '\x60', star (alt escape (set (.compl (.single '\x60')))) true, char '\x60']

def lineComment (opener : String) : Pattern :=
  inOrder [text opener, restOfLine, look (.lineEnd false)]

def decorator : Pattern :=
  inOrder [char '@', set (.union asciiLetter (.single '_')),
    star (set (.union (.union asciiLetter asciiDigit) (.single '_'))) true]

def directive : Pattern :=
  inOrder [look (.lineStart false), star (oneOfChars [' ', '\t']) true, char '#', restOfLine]

def hyphenated : Pattern := loop (set (.union asciiLetter (.single '-'))) true

def tag : Pattern :=
  inOrder [char '<', optional (char '/') true, blanks,
    loop (set (.union (.union asciiLetter asciiDigit) (.ofList ['-', ':']))) true,
    star (set (.compl (.single '>'))) true, char '>']

def attributeName : Pattern :=
  inOrder [look .wordBoundary, hyphenated, blanks, char '=']

def attributeValue : Pattern :=
  let quotedIn (quote : Char) :=
    inOrder [char quote, star (set (.compl (.single quote))) true, char quote]
  inOrder [char '=', blanks, group 1 (alt (quotedIn '"') (quotedIn '\''))]

def doctype : Pattern :=
  inOrder [text "<!DOCTYPE", star (set (.compl (.single '>'))) true, char '>']

/-- An element, a class, an identifier or an asterisk, in group 1, behind the beginning of the
text, a comma, an opening brace or white space. -/
def selector : Pattern :=
  inOrder [
    alt (look .textStart) (set (.union (.ofList [',', '\x7b']) .blank)),
    group 1 (alt
      (inOrder [optional (oneOfChars ['#', '.']) true, set asciiLetter,
        star (set (.union (.union asciiLetter asciiDigit) (.ofList ['-', '_']))) true])
      (char '*'))]

def pseudoClass : Pattern := seq (char ':') hyphenated

def property : Pattern :=
  inOrder [look .wordBoundary, hyphenated, blanks, char ':']

def colorFunction (name : String) : Pattern :=
  inOrder [text name, optional (char 'a') true, char '(', star (set .inLine) false, char ')']

def units : List String := ["px", "em", "rem", "%", "pt", "vh", "vw"]

def measure : Pattern :=
  inOrder [digits, optional (seq (char '.') digits) true, optional (oneOf (units.map text)) true]

def propertyValue : Pattern :=
  inOrder [char ':', blanks,
    group 1 (oneOf [
      inOrder [char '#', exactly (set hexDigit) 3, atMost (set hexDigit) true 5],
      colorFunction "rgb",
      colorFunction "hsl",
      loop (set (.union (.single '-') .word)) true,
      measure]),
    look .wordBoundary]

end Highlighting.Lexeme
