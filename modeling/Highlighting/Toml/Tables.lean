import Highlighting.Toml.Value

/-!
Where keys and headers of TOML put their values. A table may be defined once; what a longer header
passes through may still be defined by its own header, and what a dotted key created may only grow
by dotted keys or get tables below it.
-/
namespace Highlighting.Toml.Entries

/-- Changes the table at the end of a path of headers. Tables on the way are created where they are
missing, and of tables with one common header the last is meant. -/
def underHeader (change : Entries → Option Entries) : (path : List String) → Entries → Option Entries
  | [], entries => change entries
  | key :: path, entries =>
    match entries.lookup key with
    | none => do
      let inner ← underHeader change path []
      return entries.put key (.table .implied inner)
    | some (.table .inline _) => none
    | some (.table origin inner) => do
      let inner ← underHeader change path inner
      return entries.put key (.table origin inner)
    | some (.tables elements) =>
      match elements.getLast? with
      | none => none
      | some last => do
        let last ← underHeader change path last
        return entries.put key (.tables (elements.dropLast ++ [last]))
    | some _ => none

/-- Opens the table of a header, which must not have been defined. One that was implied so far takes
its place behind the tables that have been defined. -/
def openTable (key : String) (entries : Entries) : Option Entries :=
  match entries.lookup key with
  | none => some (entries.put key (.table .header []))
  | some (.table .implied inner) =>
    some (Entries.put key (.table .header inner) (entries.filter (·.1 ≠ key)))
  | some _ => none

def openElement (key : String) (entries : Entries) : Option Entries :=
  match entries.lookup key with
  | none => some (entries.put key (.tables [[]]))
  | some (.tables elements) => some (entries.put key (.tables (elements ++ [[]])))
  | some _ => none

/-- Adds a value under a key of one part or more to a table of some origin. A key of several parts
passes through tables that have no header, or the last of those that share one in double brackets,
and ends in a table that dotted keys created. -/
def insert (value : Value) : (origin : Origin) → (dotted : Bool) → (key : List String) → Entries →
    Option Entries
  | _, _, [], _ => none
  | origin, dotted, [key], entries =>
    if dotted && origin ≠ .dotted then none
    else match entries.lookup key with
      | none => some (entries.put key value)
      | some _ => none
  | _, _, key :: rest, entries =>
    match entries.lookup key with
    | none => do
      let inner ← insert value .dotted true rest []
      return entries.put key (.table .dotted inner)
    | some (.table origin inner) =>
      if origin = .implied ∨ origin = .dotted then do
        let inner ← insert value origin true rest inner
        return entries.put key (.table origin inner)
      else none
    | some (.tables elements) =>
      match elements.getLast? with
      | none => none
      | some last => do
        let last ← insert value .header true rest last
        return entries.put key (.tables (elements.dropLast ++ [last]))
    | some _ => none

end Highlighting.Toml.Entries
