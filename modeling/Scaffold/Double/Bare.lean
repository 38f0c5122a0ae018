import Scaffold.Plugin.Basic
import Scaffold.Schema.Relations

/-!
Bare plugins: the least that a kind demands, and all else by default.
-/

namespace Scaffold.Bare

def word : String := "bare"

def info (name : String) (handle : Nat) : PluginInfo where
  name := name
  version := word
  handle := handle

def bundle (name : String) : Bundle where
  files := [{ path := name, content := word }]

def plugin (name : String) (handle : Nat) : PluginKind → Plugin
  | .parser => .parser {
      info := info name handle
      extensions := [word]
      parse := fun _ _ => .ok (Schema.new {} [] []) }
  | .generator => .generator {
      info := info name handle
      style := .rest
      generate := fun _ _ => .ok (bundle name) }
  | .adapter => .adapter {
      info := info name handle
      framework := word
      adapt := fun given _ => .ok given }
  | .auth => .auth {
      info := info name handle
      strategy := word
      generate := fun _ _ => .ok (bundle name)
      middleware := [] }
  | .database => .database {
      info := info name handle
      library := word
      generate := fun _ _ => .ok (bundle name) }
  | .deploy => .deploy {
      info := info name handle
      target := word
      generate := fun _ _ => .ok (bundle name) }

end Scaffold.Bare
