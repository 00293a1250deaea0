import Highlighting.CharSet.Property
import Highlighting.CharSet.Script
import Highlighting.CharSet.Segment
import Highlighting.Text.Bytes
import Highlighting.Unicode.Age

/-!
Sets that are called by a name, or by the name of a property and that of its value.
-/
namespace Highlighting.CharSet

/-- The form in which names are compared. Letter case, spaces, hyphens, underscores and an `is` in
front make no difference, nor do characters beyond ASCII. Only `isc` keeps what is in front, because
it is no spelling of `c`. -/
def looseName (name : Text) : Text :=
  let kept (part : Text) : Text :=
    (part.filter fun c => c.toNat < 0x80 && c ≠ ' ' && c ≠ '_' && c ≠ '-').map Char.toLower
  match name with
  | i :: s :: rest =>
    if i.toLower = 'i' ∧ s.toLower = 's' then
      if kept rest = ['c'] then ['i', 's', 'c'] else kept rest
    else kept name
  | _ => kept name

def find? (sets : List Named) (name : Text) : Option CharSet :=
  (sets.find? fun (names, _) =>
    names.any fun known => looseName known.toList = looseName name).map (·.2)

def ages : List Named :=
  let upTo (v w : Unicode.Version) : Bool :=
    w.major < v.major || (w.major = v.major && w.minor ≤ v.minor)
  Unicode.versions.map fun v =>
    ([toString v.major ++ "." ++ toString v.minor, "V" ++ toString v.major ++ "_" ++ toString v.minor],
      unionAll ((Unicode.versions.filter (upTo v)).map fun w => .table w.added))

def ofName? (name : Text) : Option CharSet :=
  find? properties name <|> find? categories name <|> find? scripts name

def ofValue? (property value : Text) : Option CharSet :=
  match String.ofList (looseName property) with
  | "gc" | "generalcategory" => find? categories value
  | "sc" | "script" => find? scripts value
  | "scx" | "scriptextensions" => find? scriptUses value
  | "age" => find? ages value
  | "gcb" | "graphemeclusterbreak" => find? graphemeBreaks value
  | "wb" | "wordbreak" => find? wordBreaks value
  | "sb" | "sentencebreak" => find? sentenceBreaks value
  | _ => none

end Highlighting.CharSet
