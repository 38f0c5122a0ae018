import Scaffold.Json.Codec

/-!
What happens to two files with one path.
-/

namespace Scaffold

inductive MergeStrategy where
  | lastWins | firstWins | error
  deriving DecidableEq, Repr, Inhabited

inductive MergeError where
  | fileConflict (path : String)
  | unknownStrategy (name : String)
  deriving DecidableEq, Repr

def MergeError.message : MergeError → String
  | .fileConflict path => s!"file conflict: `{path}` is produced by more than one plugin"
  | .unknownStrategy name =>
      s!"unknown merge strategy `{name}` (expected last-wins, first-wins or error)"

namespace MergeStrategy

def name : MergeStrategy → String
  | .lastWins => "last-wins"
  | .firstWins => "first-wins"
  | .error => "error"

instance : Json.Named MergeStrategy where
  all := [.lastWins, .firstWins, .error]
  name := name

def word : MergeStrategy → String
  | .lastWins => "LastWins"
  | .firstWins => "FirstWins"
  | .error => "Error"

def ofName (s : String) : Except MergeError MergeStrategy :=
  match Json.named? s with
  | some strategy => .ok strategy
  | none => .error (.unknownStrategy s)

end MergeStrategy

end Scaffold
