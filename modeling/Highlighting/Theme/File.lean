import Highlighting.Theme.Overlay

/-!
Themes kept in files. Reading is left to the caller, in whatever monad files are read; a theme only
decides which file to ask for and what to make of the answer.
-/
namespace Highlighting

inductive FileFault where
  | missing
  | isDirectory
  | notUtf8
  | other (message : String)
  deriving DecidableEq, Repr

def FileFault.message : FileFault → String
  | missing => "No such file or directory (os error 2)"
  | isDirectory => "Is a directory (os error 21)"
  | notUtf8 => "stream did not contain valid UTF-8"
  | other message => message

def decodeBytes (bytes : ByteArray) : Except FileFault Text :=
  match String.fromUTF8? bytes with
  | some s => .ok s.toList
  | none => .error .notUtf8

inductive LoadFault where
  | file (fault : FileFault)
  | theme (fault : Theme.Fault)
  deriving DecidableEq, Repr

def LoadFault.message : LoadFault → String
  | file fault => "I/O error: " ++ fault.message
  | theme fault => fault.message

namespace Theme

def fileName : String := ".snippet-highlight.toml"

def pathIn (home : String) : String :=
  if home.toList.getLast?.all (· = '/') then home ++ fileName else home ++ "/" ++ fileName

def ofContents : Except FileFault ByteArray → Except LoadFault Theme
  | .error fault => .error (.file fault)
  | .ok bytes => match decodeBytes bytes with
    | .error fault => .error (.file fault)
    | .ok text => match parse text with
      | .ok theme => .ok theme
      | .error fault => .error (.theme fault)

/-- Without a theme file in the home directory, the default theme is meant. -/
def ofHomeContents : Except FileFault ByteArray → Except LoadFault Theme
  | .error .missing => .ok default
  | contents => ofContents contents

variable {m : Type → Type} [Monad m]

def load (read : String → m (Except FileFault ByteArray)) (path : String) :
    m (Except LoadFault Theme) := do
  return ofContents (← read path)

def loadHome (read : String → m (Except FileFault ByteArray)) (home : Option String) :
    m (Except LoadFault Theme) :=
  match home with
  | none => return .ok default
  | some home => do return ofHomeContents (← read (pathIn home))

end Theme

end Highlighting
