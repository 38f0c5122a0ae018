import Scaffold.FileTree
import Scaffold.Json.Codec

/-!
Listings: all that a file tree holds below a directory, in the order of the paths.
-/

namespace Scaffold

open Text.Utf8 (Bytes)

namespace FileTree

def pathBelow? (root location : Location) : Option String :=
  if root.isPrefixOf location && root.length < location.length then
    some ("/".intercalate (location.drop root.length))
  else none

def listing (t : FileTree) (root : Location) : Dict Entry :=
  .ofList (t.entries.filterMap fun (location, e) => (pathBelow? root location).map (·, e))

def contentJson (content : Bytes) : Json :=
  match Text.Utf8.decode? content with
  | some s => .string s
  | none => .object [("bytes", Json.ofList (fun b => .ofNat b.toNat) content)]

def modeJson (mode : Nat) : Json :=
  .string (String.ofList (Nat.toDigits 8 mode))

def entryMembers (modes : Bool) : Entry → Json.Members
  | .directory => [("dir", .bool true)]
  | .file content mode =>
      ("content", contentJson content) :: if modes then [("mode", modeJson mode)] else []

def listingJson (t : FileTree) (root : Location) (modes : Bool) : Json :=
  Json.ofList (fun (path, e) => .object (("path", .string path) :: entryMembers modes e))
    (t.listing root).entries

end FileTree

end Scaffold
