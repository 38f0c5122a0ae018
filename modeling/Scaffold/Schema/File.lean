import Scaffold.FileTree
import Scaffold.Schema.Document

/-!
Schemas in files.
-/

namespace Scaffold

inductive LoadError where
  | file (fault : FileError)
  | notText
  | document (error : DocumentError)
  deriving DecidableEq, Repr

namespace Schema

/-- Writes the document of a schema, with a line break at its end, and the directories around it. -/
def save (schema : Schema) (t : FileTree) (path : String) : FileTree × Except FileError Unit :=
  match t.makeDirectories ((Path.parent? path).getD "") with
  | (t, .error e) => (t, .error e)
  | (t, .ok ()) =>
      match t.write path (Text.Utf8.encode (schema.document ++ "\n")) with
      | .ok t => (t, .ok ())
      | .error e => (t, .error e)

def load (t : FileTree) (path : String) : Except LoadError Schema :=
  match t.readText path with
  | .error e => .error (.file e)
  | .ok none => .error .notText
  | .ok (some text) => (ofDocument text).mapError .document

end Schema

end Scaffold
