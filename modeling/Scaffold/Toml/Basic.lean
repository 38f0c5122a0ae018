import Scaffold.Json.Codec
import Scaffold.Toml.Datetime

/-!
Values of TOML documents, and what they are in JSON.
-/

namespace Scaffold

inductive Toml where
  | string (value : String)
  | integer (value : Int)
  | float (value : Float)
  | boolean (value : Bool)
  | datetime (value : Toml.Datetime)
  | array (items : List Toml)
  | table (entries : List (String × Toml))
  deriving Inhabited

namespace Toml

mutual

/-- Equality of values; floats compare as numbers. -/
def beq : Toml → Toml → Bool
  | .string a, .string b => a == b
  | .integer a, .integer b => a == b
  | .float a, .float b => a == b
  | .boolean a, .boolean b => a == b
  | .datetime a, .datetime b => a == b
  | .array a, .array b => beqItems a b
  | .table a, .table b => beqEntries a b
  | _, _ => false

def beqItems : List Toml → List Toml → Bool
  | [], [] => true
  | a :: as, b :: bs => beq a b && beqItems as bs
  | _, _ => false

def beqEntries : List (String × Toml) → List (String × Toml) → Bool
  | [], [] => true
  | (k, a) :: as, (l, b) :: bs => k == l && beq a b && beqEntries as bs
  | _, _ => false

end

instance : BEq Toml := ⟨beq⟩

def fitsInteger (n : Int) : Bool :=
  -0x8000000000000000 ≤ n && n < 0x8000000000000000

def isTable : Toml → Bool
  | .table _ => true
  | _ => false

/-- The key under which JSON keeps the text of a date or time. -/
def datetimeKey : String := "$__toml_private_datetime"

mutual

/-- A value in JSON. A float that is no finite number becomes `null`. -/
def toJson : Toml → Json
  | .string s => .string s
  | .integer n => .integer n
  | .float x => .ofFloat x
  | .boolean b => .bool b
  | .datetime d => .object [(datetimeKey, .string d.text)]
  | .array items => .array (toJsonItems items)
  | .table entries => .object (toJsonEntries entries)

def toJsonItems : List Toml → List Json
  | [] => []
  | item :: items => toJson item :: toJsonItems items

def toJsonEntries : List (String × Toml) → List (String × Json)
  | [] => []
  | (key, value) :: entries => (key, toJson value) :: toJsonEntries entries

end

def ofDatetimeText? : Toml → Option Toml
  | .string text => (Datetime.read? text.toList).map .datetime
  | _ => none

mutual

/-- The value that a JSON tree stands for. There is none for `null`, and none for integers beyond 64
bits signed. -/
def ofJson? : Json → Option Toml
  | .bool b => some (.boolean b)
  | .integer n => if fitsInteger n then some (.integer n) else none
  | .float x => some (.float x)
  | .string s => some (.string s)
  | .array items => (ofJsonItems? items).map .array
  | .object [] => some (.table [])
  | .object ((key, value) :: members) => do
      let value ← ofJson? value
      if key = datetimeKey then
        if members.isEmpty then ofDatetimeText? value else none
      else return .table ((key, value) :: (← ofJsonMembers? members))
  | _ => none

def ofJsonItems? : List Json → Option (List Toml)
  | [] => some []
  | item :: items => do return (← ofJson? item) :: (← ofJsonItems? items)

def ofJsonMembers? : List (String × Json) → Option (List (String × Toml))
  | [] => some []
  | (key, value) :: members => do return (key, ← ofJson? value) :: (← ofJsonMembers? members)

end

end Toml

end Scaffold
