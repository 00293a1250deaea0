import Highlighting.Display.Terminal
import Highlighting.Text.Columns
import Highlighting.Text.Quoted

/-!
Listings of highlighted blocks: a line for the block, and one for each span with its bytes, its
column, its class and its text.
-/
namespace Highlighting.Listing

def heading (index : Nat) (state : BlockState) : Text :=
  "block ".toList ++ decimal index ++ " state=".toList ++
    (match state with | .normal => ['0'] | .inComment => ['1']) ++ ['\n']

def line? (text : Text) (span : Span) : Option Text := do
  let before ← text.slice? 0 span.start
  let own ← span.text? text
  return [' ', ' '] ++ decimal span.start ++ ['.', '.'] ++ decimal span.stop ++ " col ".toList ++
    decimal (Text.columns before) ++ ' ' :: span.kind.name.toList ++ ' ' :: Text.quoted own ++ ['\n']

def lines? (text : Text) : List Span → Option Text
  | [] => some []
  | span :: rest => do return (← line? text span) ++ (← lines? text rest)

def write (index : Nat) (text : Text) (highlight : Highlight) : Option Text :=
  (lines? text highlight.spans).map (heading index highlight.state ++ ·)

end Highlighting.Listing
