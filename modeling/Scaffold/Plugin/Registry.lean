import Scaffold.Plugin.Basic

/-!
Registries: the plugins that a configuration can choose from, one of each kind and name.
-/

namespace Scaffold

structure Registry where
  plugins : List Plugin := []

namespace Registry

def empty : Registry := {}

def key (p : Plugin) : PluginKind × String :=
  (p.kind, p.name)

/-- Puts a plugin in place of the first one with its key, or else at the end. -/
def insertPlugin (p : Plugin) : List Plugin → List Plugin
  | [] => [p]
  | q :: qs => if key q = key p then p :: qs else q :: insertPlugin p qs

def register (r : Registry) (p : Plugin) : Registry :=
  ⟨insertPlugin p r.plugins⟩

def ofList (ps : List Plugin) : Registry :=
  ps.foldl register empty

def size (r : Registry) : Nat := r.plugins.length

def isEmpty (r : Registry) : Bool := r.plugins.isEmpty

def get? (r : Registry) (kind : PluginKind) (name : String) : Option Plugin :=
  r.plugins.find? fun p => p.kind == kind && p.name == name

def ofKind (r : Registry) (kind : PluginKind) : List Plugin :=
  r.plugins.filter (·.kind == kind)

def names (r : Registry) (kind : PluginKind) : List String :=
  (r.ofKind kind).map (·.name)

def parsers (r : Registry) : List Parser :=
  r.plugins.filterMap fun
    | .parser p => some p
    | _ => none

def parserFor (r : Registry) (path : String) (source : Source := .text "") : Option Parser :=
  r.parsers.find? fun p => p.canParse source (some path)

def generatorsFor (r : Registry) (style : ApiStyle) : List Generator :=
  r.plugins.filterMap fun
    | .generator g => if g.style = style then some g else none
    | _ => none

/-- The first plugin of a kind that has the word for its capability; its own name serves as well. -/
def tagged? (r : Registry) (kind : PluginKind) (word : String) : Option kind.Item :=
  r.plugins.findSome? fun p =>
    (p.item? kind).filter fun _ => p.capability = word ∨ p.name = word

def adapter? (r : Registry) (framework : String) : Option Adapter :=
  r.tagged? .adapter framework

def auth? (r : Registry) (strategy : String) : Option Auth :=
  r.tagged? .auth strategy

def database? (r : Registry) (library : String) : Option Database :=
  r.tagged? .database library

def deploy? (r : Registry) (target : String) : Option Deploy :=
  r.tagged? .deploy target

def describe (r : Registry) : String :=
  "PluginRegistry \x7b plugins: " ++ Text.bracketed (r.plugins.map Plugin.describe) ++ " \x7d"

end Registry

end Scaffold
