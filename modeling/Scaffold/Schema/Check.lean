import Scaffold.Report
import Scaffold.Schema.Basic

/-!
Checking a schema: what a generator would trip over.
-/

namespace Scaffold.Schema

mutual

/-- What is wrong with the type of the field `path`: names of enumerations and models that the
schema lacks, also below arrays and inside inline objects. -/
def typeWarnings (schema : Schema) (path : String) : FieldType → List String
  | .enumeration name =>
      if (schema.enum? name).isNone then [s!"field `{path}` uses unknown enum `{name}`"] else []
  | .reference model =>
      if (schema.model? model).isNone then
        [s!"field `{path}` references unknown model `{model}`"]
      else []
  | .array items => typeWarnings schema path items
  | .object fields => fieldWarnings schema path fields
  | .scalar _ => []

def fieldWarnings (schema : Schema) (owner : String) : List Field → List String
  | [] => []
  | ⟨name, type, _, _, _, _, _, _, _, _, _, _, _⟩ :: fields =>
      typeWarnings schema (owner ++ "." ++ name) type ++ fieldWarnings schema owner fields

end

def hintWarnings (schema : Schema) (model : Model) (field : Field) : List String :=
  match field.relation with
  | some hint =>
      if (schema.model? hint.model).isNone then
        [s!"relation `{model.name}.{field.name}` targets unknown model `{hint.model}` "
          ++ "and was not materialized"]
      else []
  | none => []

def modelWarnings (schema : Schema) (model : Model) : List String :=
  (if model.primaryKey?.isNone then [s!"model `{model.name}` has no primary key"] else [])
    ++ model.fields.flatMap fun field =>
      typeWarnings schema (model.name ++ "." ++ field.name) field.type
        ++ schema.hintWarnings model field

def duplicateWarnings : (seen : List String) → List Model → List String
  | _, [] => []
  | seen, model :: models =>
      (if seen.contains model.name then [s!"duplicate model name `{model.name}`"] else [])
        ++ duplicateWarnings (model.name :: seen) models

def enumWarnings (enum : Enumeration) : List String :=
  if enum.values.isEmpty then [s!"enum `{enum.name}` has no values"] else []

def versionError (found : String) : String :=
  s!"unsupported IR version `{found}` (expected `{currentVersion}`)"

def checkErrors (schema : Schema) : List String :=
  if schema.version != currentVersion then [versionError schema.version] else []

def checkWarnings (schema : Schema) : List String :=
  duplicateWarnings [] schema.models
    ++ schema.models.flatMap schema.modelWarnings
    ++ schema.enums.flatMap enumWarnings

/-- The findings on a schema. Only a foreign version is an error. -/
def check (schema : Schema) : Report :=
  .ofFindings schema.checkErrors schema.checkWarnings

end Scaffold.Schema
