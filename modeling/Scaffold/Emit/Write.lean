import Scaffold.Emit.Basic

/-!
Writing bundles into file trees. A file that cannot be written is reported and does no harm to the
others; only an output directory that cannot be made ends the whole.
-/

namespace Scaffold

open Text.Utf8 (Bytes)

namespace FileTree

def store (t : FileTree) (path : String) (content : Bytes) (mode : Option UInt32) :
    FileTree × Except FileError Unit :=
  match t.makeDirectories ((Path.parent? path).getD "") with
  | (t, .error e) => (t, .error e)
  | (t, .ok ()) =>
      match t.write path content with
      | .error e => (t, .error e)
      | .ok t =>
          match mode with
          | none => (t, .ok ())
          | some mode =>
              match t.setMode path mode.toNat with
              | .ok t => (t, .ok ())
              | .error e => (t, .error e)

end FileTree

namespace Emitter

/-- Whether a file that exists stays as it is: by the file's own flag, or else by the policy. -/
def keepsExisting (e : Emitter) (t : FileTree) (file : OutputFile) (target : String)
    (content : Bytes) : Except FileError Bool :=
  match file.overwrite, e.policy with
  | some overwrite, _ => .ok !overwrite
  | none, .always => .ok false
  | none, .never => .ok true
  | none, .ifChanged => (· == content) <$> t.read target

def keeps (e : Emitter) (t : FileTree) (file : OutputFile) (target : String) (content : Bytes) :
    Except FileError Bool := do
  if ← t.tryExists target then e.keepsExisting t file target content else return false

def writeTo (e : Emitter) (t : FileTree) (file : OutputFile) (target : String) (content : Bytes) :
    FileTree × Outcome :=
  match e.keeps t file target content with
  | .error fault => (t, .failed file.path (.file fault))
  | .ok true => (t, .kept target)
  | .ok false =>
      if e.dryRun then (t, .written target)
      else
        match t.store target content file.mode with
        | (t, .ok ()) => (t, .written target)
        | (t, .error fault) => (t, .failed file.path (.file fault))

def writeFile (e : Emitter) (t : FileTree) (file : OutputFile) : FileTree × Outcome :=
  match Path.resolve e.directory file.path with
  | none => (t, .failed file.path .unsafePath)
  | some target =>
      match file.bytes with
      | .error fault => (t, .failed file.path (.content fault))
      | .ok content => e.writeTo t file target content

def writeFiles (e : Emitter) (t : FileTree) : List OutputFile → FileTree × List Outcome
  | [] => (t, [])
  | file :: files =>
      let (t, outcome) := e.writeFile t file
      let (t, outcomes) := e.writeFiles t files
      (t, outcome :: outcomes)

def prepare (e : Emitter) (t : FileTree) : FileTree × Except DirectoryFault Unit :=
  if e.dryRun then (t, .ok ())
  else
    let (t, result) := t.makeDirectories e.directory
    (t, result.mapError fun fault => ⟨e.directory, fault⟩)

def write (e : Emitter) (t : FileTree) (bundle : Bundle) :
    FileTree × Except DirectoryFault WriteReport :=
  match e.prepare t with
  | (t, .error fault) => (t, .error fault)
  | (t, .ok ()) =>
      let (t, outcomes) := e.writeFiles t bundle.files
      (t, .ok (.ofOutcomes e.dryRun outcomes))

end Emitter

end Scaffold
