import Scaffold.Instant
import Scaffold.Json.Basic

/-!
Bundles: what plugins produce, files to write and the packages that they need.
-/

namespace Scaffold

inductive FileType where
  | source | config | test | documentation | migration | other
  deriving DecidableEq, Repr

inductive FileEncoding where
  | utf8 | base64
  deriving DecidableEq, Repr

/-- A file of a bundle. `path` is relative and tells files apart when bundles are merged. `overwrite`
settles for this file alone whether it may replace one that exists. -/
structure OutputFile where
  path : String
  content : String
  type : Option FileType := none
  overwrite : Option Bool := none
  encoding : Option FileEncoding := none
  mode : Option UInt32 := none
  deriving DecidableEq, Repr

inductive DependencyKind where
  | dependencies | devDependencies | peerDependencies
  deriving DecidableEq, Repr

/-- A package that generated code needs. `name` tells packages apart when bundles are merged. -/
structure Dependency where
  name : String
  version : String
  kind : Option DependencyKind := none
  dev : Option Bool := none
  deriving DecidableEq, Repr

structure BundleMetadata where
  generatedAt : Option Instant := none
  contributors : List String := []
  extra : Dict Json.Value := {}

structure Bundle where
  files : List OutputFile := []
  dependencies : List Dependency := []
  metadata : Option BundleMetadata := none

namespace Dependency

def forDevelopment (name version : String) : Dependency :=
  ⟨name, version, some .devDependencies, some true⟩

def peer (name version : String) : Dependency :=
  ⟨name, version, some .peerDependencies, none⟩

def isDev (d : Dependency) : Bool :=
  d.dev.getD (d.kind == some .devDependencies)

end Dependency

/-- Lines of a text. A line break ends a line; after the last one only a text that is not empty makes
another. -/
def lineCount (s : String) : Nat :=
  let cs := s.toList
  cs.count '\n' + (if cs.getLast?.any (· != '\n') then 1 else 0)

namespace Bundle

def empty : Bundle := {}

instance : Inhabited Bundle := ⟨empty⟩

def addFile (b : Bundle) (file : OutputFile) : Bundle :=
  { b with files := b.files ++ [file] }

def addDependency (b : Bundle) (d : Dependency) : Bundle :=
  { b with dependencies := b.dependencies ++ [d] }

def file? (b : Bundle) (path : String) : Option OutputFile :=
  b.files.find? (·.path == path)

def dependency? (b : Bundle) (name : String) : Option Dependency :=
  b.dependencies.find? (·.name == name)

def isEmpty (b : Bundle) : Bool :=
  b.files.isEmpty && b.dependencies.isEmpty

def paths (b : Bundle) : List String :=
  b.files.map (·.path)

/-- Lines of text in all files but those in base64. -/
def lines (b : Bundle) : Nat :=
  (b.files.filter (·.encoding != some .base64)).foldl (fun n f => n + lineCount f.content) 0

end Bundle

end Scaffold
