import Scaffold.Config.Codec
import Scaffold.FileTree

/-!
Configurations in files, and finding the one that a directory belongs to.
-/

namespace Scaffold.Config

def fileName : String := "apigen.toml"

/-- Writes a configuration as it is, be it usable or not. -/
def save (c : Config) (t : FileTree) (path : String) : Except FileError FileTree :=
  t.write path (Text.Utf8.encode c.document)

def load (t : FileTree) (path : String) : Except ConfigError Config :=
  match t.readText path with
  | .ok (some text) => ofDocument text
  | _ => .error .unreadable

/-- The configuration file in a directory or the closest one around it. -/
def locate (t : FileTree) (start : String) : Option String :=
  ((Path.ancestors start).map (Path.join · fileName)).find? t.isFile

/-- Finds a configuration and reads it, its paths seen from the directory of its file. -/
def discover (t : FileTree) (start : String) : Except ConfigError (Config × String) :=
  match locate t start with
  | none => .error (.notFound start)
  | some path => do
      let c ← load t path
      return (c.relativeTo ((Path.parent? path).getD "."), path)

end Scaffold.Config
