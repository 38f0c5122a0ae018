import Scaffold.Toml.Codec

/-!
The trees that configurations are decoded from. Documents and JSON differ in what they take for a
record, for a named value and for nothing; `ConfigTree` says what each of them takes.
-/

namespace Scaffold

class ConfigTree (V : Type) where
  /-- The fields of a record with the given keys, which admits no others. -/
  record? : List String → V → Option (Fields V)
  isNothing : V → Bool
  boolean? : V → Option Bool
  string? : V → Option String
  items? : V → Option (List V)
  name? : V → Option String
  /-- A dictionary of values that are handed on as they are. -/
  dict? : V → Option (Dict Toml)

instance : ConfigTree Toml where
  record? := Toml.closedRecord?
  isNothing _ := false
  boolean? := Toml.boolean?
  string? := Toml.string?
  items? := Toml.items?
  name? := Toml.name?
  dict? := Toml.dict?

instance : ConfigTree Json where
  record? := Json.closedRecord?
  isNothing := Json.isNull
  boolean? := Json.bool?
  string? := Json.string?
  items? := Json.list? some
  name? := Json.name? false
  dict? := Json.dict? Toml.ofJson?

namespace ConfigTree

variable {V : Type} [ConfigTree V]

def strings? (v : V) : Option (List String) :=
  (items? v).bind (·.mapM string?)

def choice? [Json.Named α] (v : V) : Option α :=
  (name? v).bind Json.named?

/-- The value of a field that may be left out or hold nothing. -/
def optional (fields : Fields V) (key : String) (decode : V → Option α) : Option (Option α) :=
  match fields.lookup key with
  | none => some none
  | some v => if isNothing v then some none else (decode v).map some

end ConfigTree

end Scaffold
