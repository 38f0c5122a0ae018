import Scaffold.Fields
import Scaffold.Json.Basic

/-!
Decoding records from JSON trees and encoding them.

A record is an object with one member per field, or an array with the fields in their order. Keys
that the record does not know are passed over (or refused, in a closed record); a key that it knows
must not be repeated.

Where a tag says what a record is, the rest of the record is held back until the tag is known. What
was held back is read with less rigour, all the way down; decoders that know of it are told by a flag
`held`.
-/

namespace Scaffold.Json

abbrev Members := Fields Json

def known (keys : List String) (members : Members) : Members :=
  members.filter fun m => keys.contains m.1

def record? (keys : List String) : Json → Option Members
  | .object members =>
      if ((known keys members).map (·.1)).Nodup then some members else none
  | .array items => if items.length ≤ keys.length then some (keys.zip items) else none
  | _ => none

/-- The members of a record that admits no other keys. -/
def closedRecord? (keys : List String) (j : Json) : Option Members := do
  let members ← record? keys j
  if members.all fun m => keys.contains m.1 then some members else none

namespace Members

/-- The value of a field that may be left out or be `null`. -/
def optional (members : Members) (key : String) (decode : Json → Option α) : Option (Option α) :=
  match members.lookup key with
  | none | some .null => some none
  | some j => (decode j).map some

end Members

/-! Decoders of plain values. -/

def bool? : Json → Option Bool
  | .bool b => some b
  | _ => none

def string? : Json → Option String
  | .string s => some s
  | _ => none

def integer? : Json → Option Int
  | .integer n => some n
  | _ => none

def natBelow? (bound : Nat) : Json → Option Nat
  | .integer n => if 0 ≤ n && n < bound then some n.toNat else none
  | _ => none

def uint32? (j : Json) : Option UInt32 :=
  (natBelow? UInt32.size j).map UInt32.ofNat

def uint64? (j : Json) : Option UInt64 :=
  (natBelow? UInt64.size j).map UInt64.ofNat

/-- A number; an integer counts as the double nearest to it. -/
def float? : Json → Option Float
  | .float x => some x
  | .integer n => some (Float.ofInt n)
  | _ => none

def list? (decode : Json → Option α) : Json → Option (List α)
  | .array items => items.mapM decode
  | _ => none

/-- An object read as a dictionary: of members with one key the last counts. -/
def dict? (decode : Json → Option α) : Json → Option (Dict α)
  | .object members => do
      let entries ← members.mapM fun m => (decode m.2).map (m.1, ·)
      return Dict.ofList entries
  | _ => none

class Named (α : Type) where
  all : List α
  name : α → String

def named? [Named α] (name : String) : Option α :=
  Named.all.find? fun a => Named.name a == name

/-- A name, alone or as the only key of an object with the value `null`. In a tree that was held back
the value may be an empty object as well. -/
def name? (held : Bool) : Json → Option String
  | .string name => some name
  | .object [(name, .null)] => some name
  | .object [(name, .object [])] => if held then some name else none
  | _ => none

def heldChoice? [Named α] (held : Bool) (j : Json) : Option α :=
  (j.name? held).bind named?

def choice? [Named α] (j : Json) : Option α :=
  j.heldChoice? false

/-- A tag without an object around it. In a tree that was held back it may be the place of one of
`names`. -/
def tag? (held : Bool) (names : List String) : Json → Option String
  | .string name => some name
  | .integer n => if held && 0 ≤ n then names[n.toNat]? else none
  | _ => none

def ofNamed [Named α] (a : α) : Json :=
  .string (Named.name a)

/-! Encoders of members, of plain values and of lists. -/

def member (key : String) (value : Json) : Members := [(key, value)]

/-- A member that is left out where there is no value. -/
def optionalMember (key : String) (encode : α → Json) : Option α → Members
  | none => []
  | some a => [(key, encode a)]

def ofList (encode : α → Json) (items : List α) : Json :=
  .array (items.map encode)

def nonemptyMember (key : String) (encode : α → Json) (items : List α) : Members :=
  if items.isEmpty then [] else [(key, ofList encode items)]

def ofDict (encode : α → Json) (d : Dict α) : Json :=
  .object (d.entries.map fun e => (e.1, encode e.2))

def dictMember (key : String) (encode : α → Json) (d : Dict α) : Members :=
  if d.isEmpty then [] else [(key, ofDict encode d)]

def ofOption (encode : α → Json) : Option α → Json
  | none => .null
  | some a => encode a

def ofNat (n : Nat) : Json := .integer n

/-- A double, or `null` where it is no number. -/
def ofFloat (x : Float) : Json :=
  if x.isFinite then .float x else .null

def strings (items : List String) : Json :=
  ofList .string items

end Scaffold.Json
