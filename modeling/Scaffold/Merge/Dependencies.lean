import Scaffold.Bundle.Basic
import Scaffold.Version

/-!
Merging dependencies by package name: the higher version wins, and a package once needed at run time
stays so.
-/

namespace Scaffold

namespace Dependency

/-- Whether the version of `candidate` comes strictly after that of `current`. A version that cannot
be read neither wins nor loses. -/
def outranks (candidate current : Dependency) : Bool :=
  match Version.parse candidate.version, Version.parse current.version with
  | .ok v, .ok w => v.precedence w == .gt
  | _, _ => false

/-- Needed at run time: the flag for development is off, and the section for development gives way to
the common one. -/
def atRuntime (d : Dependency) : Dependency :=
  { d with
    dev := some false
    kind := if d.kind = some .devDependencies then some .dependencies else d.kind }

def resolve (existing incoming : Dependency) : Dependency :=
  let winner := if incoming.outranks existing then incoming else existing
  if existing.dev = some false ∨ incoming.dev = some false then winner.atRuntime else winner

/-- Adds an entry to a list: settled with the first one of its name, or else at the end. -/
def insertInto (incoming : Dependency) : List Dependency → List Dependency
  | [] => [incoming]
  | d :: ds =>
      if d.name = incoming.name then d.resolve incoming :: ds else d :: insertInto incoming ds

end Dependency

def mergeDependencies (existing incoming : List Dependency) : List Dependency :=
  incoming.foldl (fun merged d => d.insertInto merged) existing

end Scaffold
