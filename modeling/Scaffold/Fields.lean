/-!
Fields of records as they are found in trees of one format or another: keys with values.
-/

namespace Scaffold

abbrev Fields (V : Type) := List (String × V)

namespace Fields

def required (fields : Fields V) (key : String) (decode : V → Option α) : Option α :=
  (fields.lookup key).bind decode

def defaulted (fields : Fields V) (key : String) (default : α) (decode : V → Option α) :
    Option α :=
  match fields.lookup key with
  | none => some default
  | some v => decode v

end Fields

end Scaffold
