import Scaffold.Toml.Basic

/-!
Decoding records from TOML tables and encoding them. Records are closed: a key that is not one of
theirs is refused. An array gives the fields in their order; what it holds beyond them does not count.

Where a value may be of any kind, a table may stand for a date or time: `settled?`.
-/

namespace Scaffold.Toml

abbrev Members := Fields Toml

def closedRecord? (keys : List String) : Toml → Option Members
  | .table entries => if entries.all fun e => keys.contains e.1 then some entries else none
  | .array items => some (keys.zip items)
  | _ => none

def boolean? : Toml → Option Bool
  | .boolean b => some b
  | _ => none

def string? : Toml → Option String
  | .string s => some s
  | _ => none

def items? : Toml → Option (List Toml)
  | .array items => some items
  | _ => none

/-- A name, alone or as the only key of a table with an empty value. -/
def name? : Toml → Option String
  | .string name => some name
  | .table [(name, .table [])] | .table [(name, .array [])] => some name
  | _ => none

mutual

/-- The value that a tree in a document stands for where any value may stand. A table whose first key
is the one of dates and times is the date or time in its text. -/
def settled? : Toml → Option Toml
  | .array items => (settledItems? items).map .array
  | .table [] => some (.table [])
  | .table ((key, value) :: entries) =>
      if key = datetimeKey then ofDatetimeText? value
      else do
        return .table ((key, ← settled? value) :: (← settledEntries? entries))
  | v => some v

def settledItems? : List Toml → Option (List Toml)
  | [] => some []
  | item :: items => do return (← settled? item) :: (← settledItems? items)

def settledEntries? : List (String × Toml) → Option (List (String × Toml))
  | [] => some []
  | (key, value) :: entries => do return (key, ← settled? value) :: (← settledEntries? entries)

end

/-- A dictionary of values. A date or time counts as its text under the key of dates and times. -/
def dict? : Toml → Option (Dict Toml)
  | .table entries => (settledEntries? entries).map Dict.ofList
  | .datetime d => some (Dict.ofList [(datetimeKey, .string d.text)])
  | _ => none

def ofNamed [Json.Named α] (a : α) : Toml :=
  .string (Json.Named.name a)

def ofStrings (items : List String) : Toml :=
  .array (items.map .string)

def textMember (key : String) : Option String → Members
  | none => []
  | some s => [(key, .string s)]

def listMember (key : String) (items : List String) : Members :=
  if items.isEmpty then [] else [(key, ofStrings items)]

def flagMember (key : String) (flag : Bool) : Members :=
  if flag then [(key, .boolean true)] else []

def dictMember (key : String) (d : Dict Toml) : Members :=
  if d.isEmpty then [] else [(key, .table d.entries)]

end Scaffold.Toml
