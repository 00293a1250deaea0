import Highlighting.Text.Digits
import Highlighting.Text.Names

/-!
Colors: the default of the terminal, its palette of sixteen, and any mixture of red, green and
blue.
-/
namespace Highlighting

inductive Color where
  | default
  | black
  | red
  | green
  | yellow
  | blue
  | magenta
  | cyan
  | white
  | brightBlack
  | brightRed
  | brightGreen
  | brightYellow
  | brightBlue
  | brightMagenta
  | brightCyan
  | brightWhite
  | rgb (red green blue : UInt8)
  deriving DecidableEq, Repr, Inhabited

namespace Color

def named? : String → Option Color
  | "default" => some default
  | "black" => some black
  | "red" => some red
  | "green" => some green
  | "yellow" => some yellow
  | "blue" => some blue
  | "magenta" => some magenta
  | "cyan" => some cyan
  | "white" => some white
  | "brightblack" => some brightBlack
  | "grey" => some brightBlack
  | "gray" => some brightBlack
  | "brightred" => some brightRed
  | "brightgreen" => some brightGreen
  | "brightyellow" => some brightYellow
  | "brightblue" => some brightBlue
  | "brightmagenta" => some brightMagenta
  | "brightcyan" => some brightCyan
  | "brightwhite" => some brightWhite
  | _ => none

/-- Strength of one component: two hexadecimal digits, or a plus sign and one. -/
def component? (c d : Char) : Option UInt8 :=
  if c = '+' then (Text.digitIn? 16 d).map UInt8.ofNat
  else do return UInt8.ofNat (16 * (← Text.digitIn? 16 c) + (← Text.digitIn? 16 d))

def mixture? : Text → Option Color
  | [a, b, c, d, e, f] => do return rgb (← component? a b) (← component? c d) (← component? e f)
  | _ => none

/-- Reads a color, whatever white space surrounds it. Names may be written in any letter case, with
hyphens or underscores anywhere. -/
def parse? (text : Text) : Option Color :=
  match Text.trim text with
  | '#' :: digits => mixture? digits
  | name => named? (String.ofList ((Text.lowerName name).filter fun c => c ≠ '-' && c ≠ '_'))

end Color

end Highlighting
