import Scaffold.Bundle.Basic
import Scaffold.Json.Codec
import Scaffold.Schema.Codec

/-!
Bundles as JSON. The extra entries of the metadata stand beside its own members in one object.
-/

namespace Scaffold

open Json (Members)

instance : Json.Named FileType where
  all := [.source, .config, .test, .documentation, .migration, .other]
  name
    | .source => "source"
    | .config => "config"
    | .test => "test"
    | .documentation => "documentation"
    | .migration => "migration"
    | .other => "other"

instance : Json.Named FileEncoding where
  all := [.utf8, .base64]
  name
    | .utf8 => "utf-8"
    | .base64 => "base64"

instance : Json.Named DependencyKind where
  all := [.dependencies, .devDependencies, .peerDependencies]
  name
    | .dependencies => "dependencies"
    | .devDependencies => "devDependencies"
    | .peerDependencies => "peerDependencies"

namespace OutputFile

def toJson (f : OutputFile) : Json :=
  .object
    ([("path", .string f.path), ("content", .string f.content)]
      ++ Json.optionalMember "type" Json.ofNamed f.type
      ++ Json.optionalMember "overwrite" .bool f.overwrite
      ++ Json.optionalMember "encoding" Json.ofNamed f.encoding
      ++ Json.optionalMember "mode" (fun m => .ofNat m.toNat) f.mode)

def ofJson? (j : Json) : Option OutputFile := do
  let ms ← j.record? ["path", "content", "type", "overwrite", "encoding", "mode"]
  return {
    path := ← ms.required "path" Json.string?
    content := ← ms.required "content" Json.string?
    type := ← ms.optional "type" Json.choice?
    overwrite := ← ms.optional "overwrite" Json.bool?
    encoding := ← ms.optional "encoding" Json.choice?
    mode := ← ms.optional "mode" Json.uint32? }

end OutputFile

namespace Dependency

def toJson (d : Dependency) : Json :=
  .object
    ([("name", .string d.name), ("version", .string d.version)]
      ++ Json.optionalMember "type" Json.ofNamed d.kind
      ++ Json.optionalMember "dev" .bool d.dev)

def ofJson? (j : Json) : Option Dependency := do
  let ms ← j.record? ["name", "version", "type", "dev"]
  return {
    name := ← ms.required "name" Json.string?
    version := ← ms.required "version" Json.string?
    kind := ← ms.optional "type" Json.choice?
    dev := ← ms.optional "dev" Json.bool? }

end Dependency

namespace BundleMetadata

def keys : List String := ["generatedAt", "contributors"]

def toJson (m : BundleMetadata) : Json :=
  .object
    (Json.optionalMember "generatedAt" Instant.toJson m.generatedAt
      ++ Json.nonemptyMember "contributors" .string m.contributors
      ++ m.extra.entries.map fun e => (e.1, e.2.tree))

/-- Members other than its own become extra entries. -/
def ofJson? : Json → Option BundleMetadata
  | .object members => do
      let ms ← (Json.object members).record? keys
      return {
        generatedAt := ← ms.optional "generatedAt" Instant.ofJson?
        contributors := ← ms.defaulted "contributors" [] (Json.list? Json.string?)
        extra := ← (Json.object (ms.filter fun m => !keys.contains m.1)).dict? Json.Value.ofJson? }
  | _ => none

end BundleMetadata

namespace Bundle

def toJson (b : Bundle) : Json :=
  .object
    ([("files", .ofList OutputFile.toJson b.files),
        ("dependencies", .ofList Dependency.toJson b.dependencies)]
      ++ Json.optionalMember "metadata" BundleMetadata.toJson b.metadata)

def ofJson? (j : Json) : Option Bundle := do
  let ms ← j.record? ["files", "dependencies", "metadata"]
  return {
    files := ← ms.required "files" (Json.list? OutputFile.ofJson?)
    dependencies := ← ms.defaulted "dependencies" [] (Json.list? Dependency.ofJson?)
    metadata := ← ms.optional "metadata" BundleMetadata.ofJson? }

end Bundle

end Scaffold
