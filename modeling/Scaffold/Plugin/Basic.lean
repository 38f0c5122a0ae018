import Scaffold.Bundle.Basic
import Scaffold.Options
import Scaffold.Path
import Scaffold.Report
import Scaffold.Schema.Basic
import Scaffold.Source
import Scaffold.Text.Quoted

/-!
Plugins of six kinds. A plugin is what it says of itself and functions of what it is handed; it
cannot change what it was given.
-/

namespace Scaffold

inductive PluginError where
  | parse (message : String)
  | execution (message : String)
  | configuration (message : String)
  | dependency (message : String)
  | unsupported (message : String)
  deriving DecidableEq, Repr

def PluginError.message : PluginError → String
  | .parse m => "Parse error: " ++ m
  | .execution m => "Execution failed: " ++ m
  | .configuration m => "Configuration error: " ++ m
  | .dependency m => "Dependency error: " ++ m
  | .unsupported m => "Unsupported: " ++ m

def Source.readText (s : Source) : Except PluginError String :=
  s.asText.mapError fun fault => .parse ("input is not valid UTF-8: " ++ fault.message)

/-- What every plugin says of itself. Among plugins of a kind those of lower priority run first.
`handle` tells apart plugins that share everything else. -/
structure PluginInfo where
  name : String
  version : String
  description : String := ""
  priority : Int := 0
  dependencies : List Dependency := []
  peerDependencies : List Dependency := []
  handle : Nat := 0

structure ParseOptions where
  filePath : Option String := none
  strict : Bool := false
  deriving DecidableEq, Repr

/-- Whether the path has one of the extensions, in whatever case its ASCII letters are. -/
def matchesExtension (extensions : List String) (path : Option String) : Bool :=
  match path.bind Path.extension? with
  | some ext => extensions.any fun known => known.toLower == ext.toLower
  | none => false

/-- Turns sources into schemas. `canParse` is asked before a parser is chosen; `check` reports without
failing. -/
structure Parser where
  info : PluginInfo
  extensions : List String
  canParse : Source → Option String → Bool := fun _ path => matchesExtension extensions path
  parse : Source → ParseOptions → Except PluginError Schema
  check : Source → Report := fun _ => .ok

structure Generator where
  info : PluginInfo
  style : ApiStyle
  generate : Schema → GenerationOptions → Except PluginError Bundle

/-- Fits all that was generated to a framework. What it returns takes the place of what it got. -/
structure Adapter where
  info : PluginInfo
  framework : String
  adapt : Bundle → GenerationOptions → Except PluginError Bundle

structure Middleware where
  name : String
  importPath : String
  everywhere : Bool := false
  description : Option String := none
  deriving DecidableEq, Repr

structure Auth where
  info : PluginInfo
  strategy : String
  generate : Schema → GenerationOptions → Except PluginError Bundle
  middleware : List Middleware

structure Database where
  info : PluginInfo
  library : String
  generate : Schema → GenerationOptions → Except PluginError Bundle
  migrations : Schema → Option Schema → Except PluginError (Option Bundle) := fun _ _ => .ok none

structure Deploy where
  info : PluginInfo
  target : String
  generate : Bundle → GenerationOptions → Except PluginError Bundle

inductive PluginKind where
  | parser | generator | adapter | auth | database | deploy
  deriving DecidableEq, Repr

instance : Json.Named PluginKind where
  all := [.parser, .generator, .adapter, .auth, .database, .deploy]
  name
    | .parser => "parser"
    | .generator => "generator"
    | .adapter => "adapter"
    | .auth => "auth"
    | .database => "database"
    | .deploy => "deploy"

abbrev PluginKind.Item : PluginKind → Type
  | .parser => Parser
  | .generator => Generator
  | .adapter => Adapter
  | .auth => Auth
  | .database => Database
  | .deploy => Deploy

inductive Plugin where
  | parser (p : Parser)
  | generator (g : Generator)
  | adapter (a : Adapter)
  | auth (a : Auth)
  | database (d : Database)
  | deploy (d : Deploy)

namespace Plugin

def kind : Plugin → PluginKind
  | .parser _ => .parser
  | .generator _ => .generator
  | .adapter _ => .adapter
  | .auth _ => .auth
  | .database _ => .database
  | .deploy _ => .deploy

def info : Plugin → PluginInfo
  | .parser p => p.info
  | .generator g => g.info
  | .adapter a => a.info
  | .auth a => a.info
  | .database d => d.info
  | .deploy d => d.info

def name (p : Plugin) : String := p.info.name

def of : (kind : PluginKind) → kind.Item → Plugin
  | .parser => .parser
  | .generator => .generator
  | .adapter => .adapter
  | .auth => .auth
  | .database => .database
  | .deploy => .deploy

def item? : (kind : PluginKind) → Plugin → Option kind.Item
  | .parser, .parser p => some p
  | .generator, .generator g => some g
  | .adapter, .adapter a => some a
  | .auth, .auth a => some a
  | .database, .database d => some d
  | .deploy, .deploy d => some d
  | _, _ => none

section Items

variable {kind : PluginKind} {a b : kind.Item} {p : Plugin}

theorem kind_of : (of kind a).kind = kind := by
  cases kind <;> rfl

theorem of_injective (same : of kind a = of kind b) : a = b := by
  cases kind <;> cases same <;> rfl

theorem item?_eq_some_iff : p.item? kind = some a ↔ p = of kind a := by
  cases kind <;> cases p <;> simp [item?, of]

theorem item?_eq_none_iff : p.item? kind = none ↔ p.kind ≠ kind := by
  cases kind <;> cases p <;> simp [item?, Plugin.kind]

end Items

/-- What sets a plugin apart from others of its kind: extensions, style, framework, strategy, library
or target. -/
def capability : Plugin → String
  | .parser p => ",".intercalate p.extensions
  | .generator g => g.style.name
  | .adapter a => a.framework
  | .auth a => a.strategy
  | .database d => d.library
  | .deploy d => d.target

private def kindWord : PluginKind → String
  | .parser => "Parser"
  | .generator => "Generator"
  | .adapter => "Adapter"
  | .auth => "Auth"
  | .database => "Database"
  | .deploy => "Deploy"

def describe (p : Plugin) : String :=
  "AnyPlugin \x7b kind: " ++ kindWord p.kind ++ ", name: " ++ Text.quoted p.name ++ ", version: "
    ++ Text.quoted p.info.version ++ " \x7d"

end Plugin

namespace Middleware

def toJson (m : Middleware) : Json :=
  .object
    ([("name", .string m.name), ("importPath", .string m.importPath),
        ("global", .bool m.everywhere)]
      ++ Json.optionalMember "description" .string m.description)

def ofJson? (j : Json) : Option Middleware := do
  let ms ← j.record? ["name", "importPath", "global", "description"]
  return {
    name := ← ms.required "name" Json.string?
    importPath := ← ms.required "importPath" Json.string?
    everywhere := ← ms.defaulted "global" false Json.bool?
    description := ← ms.optional "description" Json.string? }

theorem readable_toJson (m : Middleware) : m.toJson.readable := by
  cases m with
  | mk name importPath everywhere description => cases description <;> rfl

theorem readableItems_map_toJson (ms : List Middleware) :
    Json.readableItems (ms.map toJson) := by
  induction ms with
  | nil => rfl
  | cons m ms ih => simp [Json.readableItems, readable_toJson, ih]

def listValue (ms : List Middleware) : Json.Value :=
  ⟨(Json.ofList toJson ms).canonical,
    Json.normal_canonical _ (by simpa [Json.ofList, Json.readable] using readableItems_map_toJson ms)⟩

end Middleware

end Scaffold
