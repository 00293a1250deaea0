import Highlighting.Highlight
import Highlighting.Theme.Basic

/-!
Highlighted blocks for a terminal. Each span is written with the escape sequences of its style in
front of it and a reset behind it; the text between spans is written as it is.
-/
namespace Highlighting

def decimal (n : Nat) : Text := Nat.toDigits 10 n

namespace Terminal

def attributes (parameters : Text) : Text :=
  '\x1b' :: '[' :: (parameters ++ ['m'])

def palette? : Color → Option Nat
  | .black => some 0
  | .red => some 1
  | .green => some 2
  | .yellow => some 3
  | .blue => some 4
  | .magenta => some 5
  | .cyan => some 6
  | .white => some 7
  | .brightBlack => some 8
  | .brightRed => some 9
  | .brightGreen => some 10
  | .brightYellow => some 11
  | .brightBlue => some 12
  | .brightMagenta => some 13
  | .brightCyan => some 14
  | .brightWhite => some 15
  | .default => none
  | .rgb _ _ _ => none

def foreground : Color → Text
  | .rgb r g b =>
    ['3', '8', ';', '2', ';'] ++ decimal r.toNat ++ ';' :: decimal g.toNat ++
      ';' :: decimal b.toNat
  | color => match palette? color with
    | some n => ['3', '8', ';', '5', ';'] ++ decimal n
    | none => ['3', '9']

def opening (style : Style) : Text :=
  attributes (foreground style.fg) ++
    (if style.bold then attributes ['1'] else []) ++ (if style.italic then attributes ['3'] else [])

def styled (style : Style) (text : Text) : Text :=
  opening style ++ text ++ attributes ['0']

def writeFrom (theme : Theme) (text : Text) : (position : Nat) → List Span → Option Text
  | position, [] =>
    if position < Text.byteLength text then do
      return (← text.slice? position (Text.byteLength text)) ++ ['\n']
    else some ['\n']
  | position, span :: rest => do
    let gap ← if position < span.start then text.slice? position span.start else some []
    let own ← span.text? text
    return gap ++ styled (theme.style span.kind) own ++ (← writeFrom theme text span.stop rest)

def write (theme : Theme) (text : Text) (highlight : Highlight) : Option Text :=
  writeFrom theme text 0 highlight.spans

end Terminal

end Highlighting
