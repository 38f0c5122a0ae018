import Scaffold.Base64
import Scaffold.Bundle.Basic
import Scaffold.Emit.Target
import Scaffold.FileTree
import Scaffold.Json.Codec
import Scaffold.Text.Blank
import Scaffold.Text.Quoted

/-!
Emitters: how bundles are written below a directory, and the report of it.
-/

namespace Scaffold

open Text.Utf8 (Bytes)

inductive OverwritePolicy where
  | always | never | ifChanged
  deriving DecidableEq, Repr, Inhabited

namespace OverwritePolicy

instance : Json.Named OverwritePolicy where
  all := [.always, .never, .ifChanged]
  name
    | .always => "always"
    | .never => "never"
    | .ifChanged => "if-changed"

def word : OverwritePolicy → String
  | .always => "Always"
  | .never => "Never"
  | .ifChanged => "IfChanged"

end OverwritePolicy

/-- An emitter with `dryRun` looks at files and changes none. -/
structure Emitter where
  directory : String
  policy : OverwritePolicy := .always
  dryRun : Bool := false
  deriving DecidableEq, Repr

def Emitter.describe (e : Emitter) : String :=
  "Emitter \x7b options: EmitOptions \x7b output_dir: " ++ Text.quoted e.directory
    ++ ", overwrite: " ++ e.policy.word ++ ", dry_run: " ++ toString e.dryRun ++ " \x7d \x7d"

inductive WriteFault where
  | unsafePath
  | content (fault : Base64.Fault)
  | file (fault : FileError)
  deriving DecidableEq, Repr

def WriteFault.message : WriteFault → String
  | .unsafePath => "path is absolute or escapes the output directory"
  | .content fault => "invalid base64 content: " ++ fault.message
  | .file fault => fault.message

structure DirectoryFault where
  path : String
  fault : FileError
  deriving DecidableEq, Repr

def DirectoryFault.message (f : DirectoryFault) : String :=
  "Failed to create output directory " ++ f.path ++ ": " ++ f.fault.message

/-- What became of a file. `kept` leaves an existing file as it was. -/
inductive Outcome where
  | written (target : String)
  | kept (target : String)
  | failed (path : String) (fault : WriteFault)
  deriving DecidableEq, Repr

namespace Outcome

def written? : Outcome → Option String
  | .written target => some target
  | _ => none

def kept? : Outcome → Option String
  | .kept target => some target
  | _ => none

def failed? : Outcome → Option (String × WriteFault)
  | .failed path fault => some (path, fault)
  | _ => none

end Outcome

structure WriteReport where
  written : List String
  skipped : List String
  failed : List (String × WriteFault)
  dryRun : Bool
  deriving DecidableEq, Repr

namespace WriteReport

def ofOutcomes (dryRun : Bool) (outcomes : List Outcome) : WriteReport where
  written := outcomes.filterMap Outcome.written?
  skipped := outcomes.filterMap Outcome.kept?
  failed := outcomes.filterMap Outcome.failed?
  dryRun := dryRun

def isSuccess (r : WriteReport) : Bool :=
  r.failed.isEmpty

def toJson (r : WriteReport) : Json :=
  .object [("written", .strings r.written), ("skipped", .strings r.skipped),
    ("failed", Json.ofList
      (fun (path, fault) => .object [("path", .string path), ("error", .string fault.message)])
      r.failed),
    ("dry_run", .bool r.dryRun)]

end WriteReport

namespace OutputFile

/-- The bytes that a file holds. Blanks around base64 do not count. -/
def bytes (file : OutputFile) : Except Base64.Fault Bytes :=
  match file.encoding with
  | some .base64 => Base64.decode (Text.Utf8.encode (Text.trim file.content))
  | _ => .ok (Text.Utf8.encode file.content)

end OutputFile

end Scaffold
