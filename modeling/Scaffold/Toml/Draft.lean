import Scaffold.Dict
import Scaffold.Toml.Basic

/-!
Drafts: tables while a document is being read. A draft remembers how each table came about, which
decides whether it may be opened or extended again.
-/

namespace Scaffold.Toml

/-- How a table came about: by a header of its own, on the way of another header, or by a dotted key. -/
inductive Origin where
  | header | implied | dotted
  deriving DecidableEq, Repr

/-- A value, a table, or tables under a header in double brackets, the last one first. -/
inductive Draft where
  | value (value : Toml)
  | table (origin : Origin) (entries : List (String × Draft))
  | tables (elements : List (List (String × Draft)))

abbrev Entries := List (String × Draft)

namespace Draft

mutual

def close : Draft → Toml
  | .value v => v
  | .table _ entries => .table (closeEntries entries)
  | .tables elements => .array (closeElements elements).reverse

def closeEntries : List (String × Draft) → List (String × Toml)
  | [] => []
  | (key, draft) :: entries => (key, close draft) :: closeEntries entries

def closeElements : List (List (String × Draft)) → List Toml
  | [] => []
  | entries :: elements => .table (closeEntries entries) :: closeElements elements

end

end Draft

namespace Entries

/-- Changes the table at the end of a path. Tables that are missing on the way are made with the given
origin. Under tables in double brackets the path goes on in the last one. A dotted key does not lead
into a table with a header of its own. -/
def within (origin : Origin) (change : Origin → Entries → Option Entries) :
    List String → Origin → Entries → Option Entries
  | [], here, entries => change here entries
  | key :: keys, _, entries => do
      let next ← match entries.lookup key with
        | none => .table origin <$> within origin change keys origin []
        | some (.table there inner) =>
            if origin = .dotted ∧ there = .header then none
            else .table there <$> within origin change keys there inner
        | some (.tables (last :: earlier)) =>
            (fun last => .tables (last :: earlier)) <$> within origin change keys .header last
        | some _ => none
      return insertEntry key next entries

/-- Puts a value under a dotted key. The key must be new, and a table that is extended by a dotted key
must have come about by one. -/
def assign (entries : Entries) (path : List String) (key : String) (value : Toml) :
    Option Entries :=
  let put (here : Origin) (entries : Entries) : Option Entries :=
    if !path.isEmpty && here ≠ .dotted then none
    else if (entries.lookup key).isSome then none
    else some (insertEntry key (.value value) entries)
  within .dotted put path .header entries

/-- Opens a table by its header. A table that was only implied so far may be opened once. -/
def openTable (entries : Entries) (path : List String) (key : String) : Option Entries :=
  let put (_ : Origin) (entries : Entries) : Option Entries :=
    match entries.lookup key with
    | none => some (insertEntry key (.table .header []) entries)
    | some (.table .implied inner) => some (insertEntry key (.table .header inner) entries)
    | some _ => none
  within .implied put path .header entries

def openElement (entries : Entries) (path : List String) (key : String) : Option Entries :=
  let put (_ : Origin) (entries : Entries) : Option Entries :=
    match entries.lookup key with
    | none => some (insertEntry key (.tables [[]]) entries)
    | some (.tables elements) => some (insertEntry key (.tables ([] :: elements)) entries)
    | some _ => none
  within .implied put path .header entries

def assignUnder (entries : Entries) (header path : List String) (key : String) (value : Toml) :
    Option Entries :=
  within .implied (fun _ inner => inner.assign path key value) header .header entries

end Entries

end Scaffold.Toml
