import Scaffold.Path

/-!
Targets: where a file of a bundle goes below an output directory. Dots are resolved on the text of the
path, and a path that leaves the directory, be it only on its way, has no target.
-/

namespace Scaffold

namespace Path

/-- Goes on from a row of names by one component; not from a root, and not above the start. -/
def climb (names : List String) : Component → Option (List String)
  | .root => none
  | .current => some names
  | .parent => if names.isEmpty then none else some names.dropLast
  | .name n => some (names ++ [n])

/-- The names that are left of a path once its dots are resolved. -/
def names? (path : String) : Option (List String) :=
  (components path).foldlM climb []

def below (root : String) (names : List String) : String :=
  names.foldl join root

def resolve (root path : String) : Option String :=
  match names? path with
  | none | some [] => none
  | some names => some (below root names)

end Path

end Scaffold
