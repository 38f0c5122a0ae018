import Scaffold.Json.Printer
import Scaffold.Json.Reader
import Scaffold.Schema.Codec

/-!
Schema documents: texts that hold a schema of the current version.
-/

namespace Scaffold

inductive DocumentError where
  | malformed
  | unsupportedVersion (found : String)
  deriving DecidableEq, Repr

/-- The text of an error; there is none for a document that does not decode. -/
def DocumentError.message : DocumentError → String
  | .malformed => ""
  | .unsupportedVersion found => Schema.versionError found

namespace Schema

/-- The schema of a tree. A schema of another version is refused once all of it has decoded. -/
def ofTree (j : Json) : Except DocumentError Schema :=
  match ofJson? j with
  | none => .error .malformed
  | some schema =>
      if schema.version = currentVersion then .ok schema
      else .error (.unsupportedVersion schema.version)

def ofDocument (text : String) : Except DocumentError Schema :=
  match Json.read? text with
  | none => .error .malformed
  | some j => ofTree j

def document (schema : Schema) : String :=
  schema.toJson.pretty

end Schema

end Scaffold
