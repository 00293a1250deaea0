import Highlighting.Text.Bytes

/-!
Splitting a text into lines. A line ends at a line feed, together with one carriage return before
it; text after the last line feed is a line of its own unless it is empty.
-/
namespace Highlighting.Text

def lines : Text → List Text
  | [] => []
  | '\n' :: rest => [] :: lines rest
  | '\r' :: '\n' :: rest => [] :: lines rest
  | c :: rest =>
    match lines rest with
    | [] => [[c]]
    | line :: more => (c :: line) :: more

end Highlighting.Text
