import Scaffold.Path
import Scaffold.Text.Utf8

/-!
File trees without links: directories and regular files, and the operations of a file system on
them, with its errors. A location is the list of names from the root; the root is a directory.

Permission bits are kept with a file (`setMode`) and never enforced: whoever works on a tree is a
privileged process, for which no operation fails for want of a permission. `FileError` has no such
error.
-/

namespace Scaffold

open Text.Utf8 (Bytes)

inductive FileError where
  | notFound
  | alreadyExists
  | notDirectory
  | isDirectory
  | nameTooLong
  | nulInPath
  deriving DecidableEq, Repr

def FileError.message : FileError → String
  | .notFound => "No such file or directory (os error 2)"
  | .alreadyExists => "File exists (os error 17)"
  | .notDirectory => "Not a directory (os error 20)"
  | .isDirectory => "Is a directory (os error 21)"
  | .nameTooLong => "File name too long (os error 36)"
  | .nulInPath => "file name contained an unexpected NUL byte"

inductive Entry where
  | directory
  | file (content : Bytes) (mode : Nat)
  deriving DecidableEq, Repr

abbrev Location := List String

structure FileTree where
  entries : List (Location × Entry)

namespace FileTree

def empty : FileTree := ⟨[]⟩

def get? (t : FileTree) : Location → Option Entry
  | [] => some .directory
  | location => t.entries.lookup location

def set (t : FileTree) (location : Location) (e : Entry) : FileTree :=
  ⟨(location, e) :: t.entries.filter (·.1 != location)⟩

/-- Bytes that a name may have, and bytes that a path must stay below. -/
def nameLimit : Nat := 255
def pathLimit : Nat := 4096

/-- Goes on from a location by one stretch of a path. Only a directory leads on, also to itself. -/
def step (t : FileTree) (here : Location) (stretch : String) : Except FileError Location :=
  match t.get? here with
  | none => .error .notFound
  | some (.file _ _) => .error .notDirectory
  | some .directory =>
      if stretch = "" || stretch = "." then .ok here
      else if stretch = ".." then .ok here.dropLast
      else if nameLimit < stretch.utf8ByteSize then .error .nameTooLong
      else .ok (here ++ [stretch])

def walk (t : FileTree) (stretches : List String) : Except FileError Location :=
  stretches.foldlM t.step []

def stretches (path : String) : Except FileError (List String) :=
  if path.toList.contains '\x00' then .error .nulInPath
  else if path.isEmpty then .error .notFound
  else if pathLimit ≤ path.utf8ByteSize then .error .nameTooLong
  else .ok (Path.split path)

def stat (t : FileTree) (path : String) : Except FileError (Location × Entry) := do
  let here ← t.walk (← stretches path)
  match t.get? here with
  | some e => return (here, e)
  | none => throw .notFound

/-- Whether a path leads to something. A path that leads through a file is an error. -/
def tryExists (t : FileTree) (path : String) : Except FileError Bool :=
  match t.stat path with
  | .ok _ => .ok true
  | .error .notFound => .ok false
  | .error e => .error e

def isDirectory (t : FileTree) (path : String) : Bool :=
  match t.stat path with
  | .ok (_, .directory) => true
  | _ => false

def isFile (t : FileTree) (path : String) : Bool :=
  match t.stat path with
  | .ok (_, .file _ _) => true
  | _ => false

def read (t : FileTree) (path : String) : Except FileError Bytes := do
  match ← t.stat path with
  | (_, .file content _) => return content
  | (_, .directory) => throw .isDirectory

/-- A path taken apart for making its last entry: the directory, the last name, and whether slashes
follow it. No name is left over where the path ends in a dot, in two dots or at the root. -/
def target (t : FileTree) (path : String) : Except FileError (Location × Option String × Bool) := do
  let all ← stretches path
  let kept := (all.reverse.dropWhile (· == "")).reverse
  let here ← t.walk kept.dropLast
  match kept.getLast? with
  | none => return (here, none, false)
  | some last =>
      if last = "." || last = ".." then
        let _ ← t.step here last
        return (here, none, false)
      else
        let there ← t.step here last
        return (here, there.getLast?, kept.length != all.length)

def makeDirectory (t : FileTree) (path : String) : Except FileError FileTree := do
  let (here, name, _) ← t.target path
  match name with
  | none => throw .alreadyExists
  | some name =>
      match t.get? (here ++ [name]) with
      | some _ => throw .alreadyExists
      | none => return t.set (here ++ [name]) .directory

/-- Makes the last of some nested paths, the innermost first in the list, and those around it that
are missing. The result is the tree as far as it got. -/
def makeNested (t : FileTree) : List String → FileTree × Except FileError Unit
  | [] => (t, .ok ())
  | path :: outer =>
      if path = "" then (t, .ok ())
      else
        match t.makeDirectory path with
        | .ok t => (t, .ok ())
        | .error .notFound =>
            match t.makeNested outer with
            | (t, .error e) => (t, .error e)
            | (t, .ok ()) =>
                match t.makeDirectory path with
                | .ok t => (t, .ok ())
                | .error e => if t.isDirectory path then (t, .ok ()) else (t, .error e)
        | .error e => if t.isDirectory path then (t, .ok ()) else (t, .error e)

/-- Makes a directory and all around it; what is a directory already may stay. -/
def makeDirectories (t : FileTree) (path : String) : FileTree × Except FileError Unit :=
  t.makeNested (Path.ancestors path)

def fileMode : Nat := 0o644

/-- Writes a file over what it held before; a file that exists keeps its mode. -/
def write (t : FileTree) (path : String) (content : Bytes) : Except FileError FileTree := do
  let (here, name, slashes) ← t.target path
  match name with
  | none => throw .isDirectory
  | some name =>
      if slashes then throw .isDirectory
      match t.get? (here ++ [name]) with
      | some .directory => throw .isDirectory
      | some (.file _ mode) => return t.set (here ++ [name]) (.file content mode)
      | none => return t.set (here ++ [name]) (.file content fileMode)

/-- Sets the permission bits of a file; bits beyond the low twelve do not count. -/
def setMode (t : FileTree) (path : String) (mode : Nat) : Except FileError FileTree := do
  match ← t.stat path with
  | (here, .file content _) => return t.set here (.file content (mode % 0o10000))
  | _ => return t

def remove (t : FileTree) (path : String) : Except FileError FileTree := do
  match ← t.stat path with
  | (here, .file _ _) => return ⟨t.entries.filter (·.1 != here)⟩
  | (_, .directory) => throw .isDirectory

/-- A file's content as text. `none` within the result marks bytes that are not UTF-8. -/
def readText (t : FileTree) (path : String) : Except FileError (Option String) :=
  Text.Utf8.decode? <$> t.read path

end FileTree

end Scaffold
