import Highlighting.Text.Bytes
import Highlighting.Unicode.Blank

/-!
Free text that stands for one of a few ASCII names: white space around it does not count, nor does
letter case.
-/
namespace Highlighting.Text

def trim (text : Text) : Text :=
  ((text.dropWhile Unicode.isBlank).reverse.dropWhile Unicode.isBlank).reverse

/-- Lower case of the characters whose lower case is an ASCII letter: A to Z and the Kelvin sign. -/
def lowerChar (c : Char) : Char :=
  if c = '\u212a' then 'k' else c.toLower

/-- A name in lower case. All characters that `lowerChar` leaves alone are foreign to ASCII names
in every case, so that two names agree exactly when full lower-casing makes them agree. -/
def lowerName (text : Text) : Text :=
  text.map lowerChar

end Highlighting.Text
