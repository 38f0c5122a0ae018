import Scaffold.Schema.Basic
import Scaffold.Text.Uppercase

/-!
Relations from hints: a field's hint becomes a relation when the model that it names exists.
-/

namespace Scaffold

/-- The field on the target side: the one the hint names, else the target's primary key. -/
def RelationHint.targetField (hint : RelationHint) (target : Model) : String :=
  (hint.references.orElse fun _ => target.primaryKey?.map (·.name)).getD "id"

/-- The name of a relation: the one its hint gives, else made of its model and field. -/
def RelationHint.relationName (hint : RelationHint) (model : Model) (field : Field) : String :=
  hint.name.getD (model.name ++ Text.upperFirst field.name)

/-- The relation that a field stands for, if it has a hint and the target is among the models. Of
several models with one name the first counts. -/
def Field.relation? (field : Field) (model : Model) (models : List Model) : Option Relation := do
  let hint ← field.relation
  let target ← models.find? (·.name == hint.model)
  return {
    name := hint.relationName model field
    cardinality := hint.cardinality
    source := ⟨model.name, field.name⟩
    target := ⟨target.name, hint.targetField target⟩
    onDelete := hint.onDelete
    onUpdate := hint.onUpdate
    through := hint.through }

def deriveRelations (models : List Model) : List Relation :=
  models.flatMap fun model => model.fields.filterMap fun field => field.relation? model models

namespace Schema

/-- A schema of the current version with the relations that its models hint at. -/
def new (metadata : SchemaMetadata) (models : List Model) (enums : List Enumeration) : Schema :=
  ⟨currentVersion, metadata, models, enums, deriveRelations models⟩

def withDerivedRelations (schema : Schema) : Schema :=
  { schema with relations := deriveRelations schema.models }

end Schema

end Scaffold
