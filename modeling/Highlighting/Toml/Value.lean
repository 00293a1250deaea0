/-!
TOML documents as trees. A table remembers how it came about, because that decides whether a later
line may add to it.
-/
namespace Highlighting.Toml

/-- How a table came about: by a header of its own or as the whole document, because a longer header
passes through it, by a dotted key, or between braces. -/
inductive Origin where
  | header
  | implied
  | dotted
  | inline
  deriving DecidableEq, Repr

/-- Numbers with a fraction and moments in time are checked, but their values are not kept. -/
inductive Value where
  | string (s : String)
  | boolean (b : Bool)
  | integer (n : Int)
  | float
  | moment
  | array (items : List Value)
  | table (origin : Origin) (entries : List (String × Value))
  /-- Tables that share one header in double brackets. -/
  | tables (elements : List (List (String × Value)))
  deriving Repr

/-- The contents of a table, each key once. -/
abbrev Entries := List (String × Value)

def Entries.put (key : String) (value : Value) : Entries → Entries
  | [] => [(key, value)]
  | (k, v) :: rest => if k = key then (k, value) :: rest else (k, v) :: put key value rest

def Entries.insertByKey (entry : String × Value) : Entries → Entries
  | [] => [entry]
  | other :: rest =>
    if entry.1 ≤ other.1 then entry :: other :: rest else other :: insertByKey entry rest

def Entries.byKey (entries : Entries) : Entries := entries.foldr insertByKey []

namespace Value

def entries? : Value → Option Entries
  | table _ entries => some entries
  | _ => none

def string? : Value → Option String
  | string s => some s
  | _ => none

def boolean? : Value → Option Bool
  | boolean b => some b
  | _ => none

end Value

end Highlighting.Toml
