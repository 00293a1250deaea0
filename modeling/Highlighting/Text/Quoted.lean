import Highlighting.Text.Bytes
import Highlighting.Unicode.Hidden

/-!
Quoted text: a text between double quotes, on one line and with nothing invisible in it. What
cannot be shown as it is appears as an escape.
-/
namespace Highlighting.Text

def codePointEscape (c : Char) : Text :=
  '\\' :: 'u' :: '\x7b' :: (Nat.toDigits 16 c.toNat ++ ['\x7d'])

/-- Quotes, backslashes and four controls have short escapes; other characters that do not show as
themselves are written by code point. -/
def quotedChar (c : Char) : Text :=
  match c with
  | '"' => ['\\', '"']
  | '\\' => ['\\', '\\']
  | '\n' => ['\\', 'n']
  | '\r' => ['\\', 'r']
  | '\t' => ['\\', 't']
  | '\x00' => ['\\', '0']
  | _ => if Unicode.isHidden c then codePointEscape c else [c]

def quoted (text : Text) : Text :=
  '"' :: (text.flatMap quotedChar ++ ['"'])

end Highlighting.Text
