import Highlighting.Theme.Basic
import Highlighting.Toml.Document

/-!
Themes written as TOML: a table for each class that is to look otherwise than by default. Entries and
fields are visited in the order of their keys, whatever their order in the file, and the first one
that is wrong is reported.
-/
namespace Highlighting.Theme

inductive EntryFault where
  | notATable
  | fgNotAString
  | unknownColor (text : String)
  | boldNotABoolean
  | italicNotABoolean
  deriving DecidableEq, Repr

def EntryFault.message : EntryFault → String
  | notATable => "expected a table"
  | fgNotAString => "`fg` must be a string"
  | unknownColor text => "unknown color `" ++ text ++ "`"
  | boldNotABoolean => "`bold` must be a boolean"
  | italicNotABoolean => "`italic` must be a boolean"

inductive Fault where
  | malformed
  | invalidEntry (kind : StyleClass) (fault : EntryFault)
  deriving DecidableEq, Repr

def Fault.message : Fault → String
  | malformed => "theme parse error"
  | invalidEntry kind fault =>
    "invalid theme entry `" ++ kind.name ++ "`: " ++ fault.message

def switch (value : Toml.Value) (fault : EntryFault) : Except EntryFault Bool :=
  match value.boolean? with
  | some b => .ok b
  | none => .error fault

def foreground (value : Toml.Value) : Except EntryFault Color :=
  match value.string? with
  | none => .error .fgNotAString
  | some text => match Color.parse? text.toList with
    | some color => .ok color
    | none => .error (.unknownColor text)

/-- Replaces the part of a style that a field names. Other fields do not count. -/
def overlayField (style : Style) (field : String × Toml.Value) : Except EntryFault Style :=
  let (name, value) := field
  if name = "fg" then (foreground value).map fun fg => { style with fg := fg }
  else if name = "bold" then
    (switch value .boldNotABoolean).map fun bold => { style with bold := bold }
  else if name = "italic" then
    (switch value .italicNotABoolean).map fun italic => { style with italic := italic }
  else .ok style

def overlayFields (style : Style) (fields : Toml.Entries) : Except EntryFault Style :=
  fields.byKey.foldlM overlayField style

/-- Lays the entry of a class over a theme. Other entries do not count. -/
def overlayEntry (theme : Theme) (entry : String × Toml.Value) : Except Fault Theme :=
  let (key, value) := entry
  match StyleClass.ofName? key with
  | none => .ok theme
  | some kind => match value.entries? with
    | none => .error (.invalidEntry kind .notATable)
    | some fields => match overlayFields (theme.style kind) fields with
      | .ok style => .ok (theme.set kind style)
      | .error fault => .error (.invalidEntry kind fault)

def overlay (theme : Theme) (document : Toml.Entries) : Except Fault Theme :=
  document.byKey.foldlM overlayEntry theme

def parse (text : Text) : Except Fault Theme :=
  match Toml.parse? text with
  | none => .error .malformed
  | some document => default.overlay document

end Highlighting.Theme
