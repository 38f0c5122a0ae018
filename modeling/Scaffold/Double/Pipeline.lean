import Scaffold.Double.Basic
import Scaffold.Pipeline.Run

/-!
Doubles for what stands around the plugins of a pipeline: hooks, transforms and filters that a
document describes, and the texts that such hooks note.
-/

namespace Scaffold

def StageEvent.word : StageEvent → String
  | .before => "before"
  | .after => "after"
  | .failed _ => "error"

def Notice.text (n : Notice) : String :=
  n.event.word ++ ":" ++ n.stage.name

namespace Hook

def failing (name : String) (failures : List String) : Hook where
  name := some name
  respond n := if failures.contains n.text then .error n.text else .ok ()

/-- Reads a hook; one without a name takes every notice and notes none. -/
def ofJson? : Json → Option Hook
  | .object ms => do
      let failures ← Fields.defaulted ms "fail" [] (Json.list? Json.string?)
      match ← Json.Members.optional ms "name" Json.string? with
      | none => return {}
      | some name => return failing name failures
  | _ => none

/-- What a hook notes of a notice, before it takes it or fails to. -/
def notes (h : Hook) (n : Notice) : List String :=
  match h.name, n.event with
  | none, _ => []
  | some name, .failed e => [name ++ ":message:" ++ e.message, name ++ ":" ++ n.text]
  | some name, _ => [name ++ ":" ++ n.text]

end Hook

namespace Activity

def notes : Activity → List String
  | .notice h n => h.notes n
  | _ => []

def call? : Activity → Option Call
  | .call c => some c
  | _ => none

end Activity

namespace SchemaTransform

/-- A transform by the word for what it does; an unknown word leaves the schema as it is. -/
def doing (name word value : String) : SchemaTransform where
  name := name
  apply schema :=
    match word with
    | "set_name" => .ok { schema with metadata := { schema.metadata with name := value } }
    | "append_name" =>
        .ok { schema with metadata := { schema.metadata with name := schema.metadata.name ++ value } }
    | "drop_model" => .ok { schema with models := schema.models.filter (·.name != value) }
    | "derive" => .ok schema.withDerivedRelations
    | "fail" => .error value
    | _ => .ok schema

def ofJson? : Json → Option SchemaTransform
  | .object ms => do
      return doing (← Fields.required ms "name" Json.string?)
        (← Fields.required ms "do" Json.string?)
        (← Fields.defaulted ms "value" "" Json.string?)
  | _ => none

end SchemaTransform

namespace BundleTransform

/-- A transform by the word for what it does; an unknown word leaves the bundle as it is. -/
def doing (name word value content : String) : BundleTransform where
  name := name
  apply bundle :=
    match word with
    | "banner" =>
        .ok { bundle with
          files := bundle.files.map fun f => { f with content := value ++ f.content } }
    | "add_file" => .ok (bundle.addFile { path := value, content })
    | "drop_dependencies" => .ok { bundle with dependencies := [] }
    | "reverse" => .ok { bundle with files := bundle.files.reverse }
    | "fail" => .error value
    | _ => .ok bundle

def ofJson? : Json → Option BundleTransform
  | .object ms => do
      return doing (← Fields.required ms "name" Json.string?)
        (← Fields.required ms "do" Json.string?)
        (← Fields.defaulted ms "value" "" Json.string?)
        (← Fields.defaulted ms "content" "" Json.string?)
  | _ => none

end BundleTransform

/-- A filter of files by the word for its test; an unknown word accepts every file. -/
def filterDoing (word value : String) (file : OutputFile) : Bool :=
  match word with
  | "starts_with" => file.path.startsWith value
  | "ends_with" => file.path.endsWith value
  | "contains" => file.content.contains value
  | _ => true

def filterOfJson? : Json → Option (OutputFile → Bool)
  | .object ms => do
      let word ← Fields.required ms "do" Json.string?
      let value ← Fields.defaulted ms "value" "" Json.string?
      let opposite ← Fields.defaulted ms "not" false Json.bool?
      return fun file => filterDoing word value file != opposite
  | _ => none

end Scaffold
