import Scaffold.Merge.Dependencies
import Scaffold.Merge.Strategy

/-!
Merging bundles: files by path, dependencies by name, metadata by concatenation and replacement.
"Later" means produced by a plugin that ran later.
-/

namespace Scaffold

namespace OutputFile

def replaceLast (file : OutputFile) : List OutputFile → List OutputFile
  | [] => []
  | f :: fs =>
      if fs.any (·.path == file.path) then f :: replaceLast file fs
      else if f.path = file.path then file :: fs
      else f :: replaceLast file fs

/-- Adds a file to a list: at the end if its path is new, else as the strategy says. A file that
replaces another keeps the position of that one. -/
def insertInto (strategy : MergeStrategy) (files : List OutputFile) (file : OutputFile) :
    Except MergeError (List OutputFile) :=
  if files.any (·.path == file.path) then
    match strategy with
    | .lastWins => .ok (file.replaceLast files)
    | .firstWins => .ok files
    | .error => .error (.fileConflict file.path)
  else .ok (files ++ [file])

end OutputFile

def mergeFiles (strategy : MergeStrategy) (earlier later : List OutputFile) :
    Except MergeError (List OutputFile) :=
  later.foldlM (OutputFile.insertInto strategy) earlier

namespace BundleMetadata

/-- Contributors of both; the later timestamp and the later extra entries win. -/
def merge (earlier later : BundleMetadata) : BundleMetadata where
  generatedAt := later.generatedAt.orElse fun _ => earlier.generatedAt
  contributors := earlier.contributors ++ later.contributors
  extra := earlier.extra.union later.extra

def mergeOptions : Option BundleMetadata → Option BundleMetadata → Option BundleMetadata
  | some earlier, some later => some (earlier.merge later)
  | some earlier, none => some earlier
  | none, later => later

end BundleMetadata

namespace Bundle

def merge (strategy : MergeStrategy) (earlier later : Bundle) : Except MergeError Bundle := do
  let files ← mergeFiles strategy earlier.files later.files
  return {
    files
    dependencies := mergeDependencies earlier.dependencies later.dependencies
    metadata := BundleMetadata.mergeOptions earlier.metadata later.metadata }

def mergeAll (strategy : MergeStrategy) (bundles : List Bundle) : Except MergeError Bundle :=
  bundles.foldlM (merge strategy) empty

end Bundle

end Scaffold
