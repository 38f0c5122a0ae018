import Scaffold.Instant
import Scaffold.Json.Codec

/-!
Schemas: the models, fields, enumerations and relations that an API is generated from.
-/

namespace Scaffold

inductive Scalar where
  | string | number | integer | boolean | date | datetime | time | json | bigint | decimal | float
  | bytes | uuid
  deriving DecidableEq, Repr

namespace Scalar

def name : Scalar → String
  | .string => "string"
  | .number => "number"
  | .integer => "integer"
  | .boolean => "boolean"
  | .date => "date"
  | .datetime => "datetime"
  | .time => "time"
  | .json => "json"
  | .bigint => "bigint"
  | .decimal => "decimal"
  | .float => "float"
  | .bytes => "bytes"
  | .uuid => "uuid"

instance : Json.Named Scalar where
  all := [.string, .number, .integer, .boolean, .date, .datetime, .time, .json, .bigint, .decimal,
    .float, .bytes, .uuid]
  name := name

end Scalar

inductive DefaultFunction where
  | now | uuid | cuid | autoincrement | dbgenerated
  deriving DecidableEq, Repr

instance : Json.Named DefaultFunction where
  all := [.now, .uuid, .cuid, .autoincrement, .dbgenerated]
  name
    | .now => "now"
    | .uuid => "uuid"
    | .cuid => "cuid"
    | .autoincrement => "autoincrement"
    | .dbgenerated => "dbgenerated"

/-- The default of a field. Literals are not held against the field's type. -/
inductive FieldDefault where
  | literal (value : Json.Value)
  | function (function : DefaultFunction)
  | expression (text : String)

structure ValidationRules where
  min : Option Float := none
  max : Option Float := none
  minLength : Option UInt64 := none
  maxLength : Option UInt64 := none
  pattern : Option String := none
  email : Bool := false
  url : Bool := false
  uuid : Bool := false
  positive : Bool := false
  integer : Bool := false
  minItems : Option UInt64 := none
  maxItems : Option UInt64 := none
  uniqueItems : Bool := false
  message : Option String := none

inductive Cardinality where
  | oneToOne | oneToMany | manyToOne | manyToMany
  deriving DecidableEq, Repr

instance : Json.Named Cardinality where
  all := [.oneToOne, .oneToMany, .manyToOne, .manyToMany]
  name
    | .oneToOne => "one-to-one"
    | .oneToMany => "one-to-many"
    | .manyToOne => "many-to-one"
    | .manyToMany => "many-to-many"

inductive ReferentialAction where
  | cascade | restrict | noAction | setNull | setDefault
  deriving DecidableEq, Repr

instance : Json.Named ReferentialAction where
  all := [.cascade, .restrict, .noAction, .setNull, .setDefault]
  name
    | .cascade => "cascade"
    | .restrict => "restrict"
    | .noAction => "noAction"
    | .setNull => "setNull"
    | .setDefault => "setDefault"

structure JoinTable where
  table : String
  fromField : String
  toField : String
  deriving DecidableEq, Repr

structure RelationHint where
  model : String
  cardinality : Cardinality
  name : Option String := none
  references : Option String := none
  onDelete : Option ReferentialAction := none
  onUpdate : Option ReferentialAction := none
  through : Option JoinTable := none
  deriving DecidableEq, Repr

mutual

inductive FieldType where
  | scalar (scalar : Scalar)
  | enumeration (name : String)
  | array (items : FieldType)
  | object (fields : List Field)
  | reference (model : String)

structure Field where
  name : String
  type : FieldType
  required : Bool
  unique : Bool
  primaryKey : Bool
  default : Option FieldDefault
  validation : Option ValidationRules
  relation : Option RelationHint
  columnName : Option String
  hidden : Bool
  readOnly : Bool
  writeOnly : Bool
  description : Option String

end

instance : Inhabited FieldType := ⟨.scalar .string⟩

structure RelationEnd where
  model : String
  field : String
  deriving DecidableEq, Repr

structure Relation where
  name : String
  cardinality : Cardinality
  source : RelationEnd
  target : RelationEnd
  onDelete : Option ReferentialAction
  onUpdate : Option ReferentialAction
  through : Option JoinTable
  deriving DecidableEq, Repr

structure EnumValue where
  name : String
  value : Option String
  deriving DecidableEq, Repr

structure Enumeration where
  name : String
  values : List EnumValue
  description : Option String
  deriving DecidableEq, Repr

structure Index where
  name : Option String
  fields : List String
  unique : Bool
  deriving DecidableEq, Repr

inductive ConstraintKind where
  | primaryKey | unique | check
  deriving DecidableEq, Repr

instance : Json.Named ConstraintKind where
  all := [.primaryKey, .unique, .check]
  name
    | .primaryKey => "primaryKey"
    | .unique => "unique"
    | .check => "check"

structure Constraint where
  name : Option String
  kind : ConstraintKind
  fields : List String
  expression : Option String
  deriving DecidableEq, Repr

/-- Who may call the endpoints of a model. No roles means any role. -/
structure ModelAuth where
  required : Bool := false
  roles : List String := []
  ownerField : Option String := none
  deriving DecidableEq, Repr

structure Crud where
  create : Bool := true
  read : Bool := true
  update : Bool := true
  delete : Bool := true
  list : Bool := true
  bulkCreate : Bool := false
  bulkUpdate : Bool := false
  bulkDelete : Bool := false
  upsert : Bool := false
  count : Bool := true
  deriving DecidableEq, Repr

structure Model where
  name : String
  fields : List Field
  indexes : List Index := []
  constraints : List Constraint := []
  crud : Crud := {}
  auth : Option ModelAuth := none
  softDelete : Bool := false
  timestamps : Bool := false
  annotations : Dict Json.Value := {}

structure SchemaMetadata where
  name : String := ""
  description : Option String := none
  source : String := ""
  sourceVersion : Option String := none
  filePath : Option String := none
  generatedAt : Option Instant := none

structure Schema where
  version : String
  metadata : SchemaMetadata
  models : List Model
  enums : List Enumeration
  relations : List Relation

namespace Schema

def currentVersion : String := "1.0"

end Schema

/-! Building fields and hints. -/

def RelationHint.new (model : String) (cardinality : Cardinality) : RelationHint :=
  { model, cardinality }

/-- A field with everything but its type and whether it is required switched off. -/
def Field.new (name : String) (type : FieldType) (required : Bool) : Field where
  name := name
  type := type
  required := required
  unique := false
  primaryKey := false
  default := none
  validation := none
  relation := none
  columnName := none
  hidden := false
  readOnly := false
  writeOnly := false
  description := none

namespace Crud

def all : Crud :=
  { bulkCreate := true, bulkUpdate := true, bulkDelete := true, upsert := true }

def readOnly : Crud :=
  { create := false, update := false, delete := false }

def enabled (crud : Crud) : List String :=
  [("create", crud.create), ("read", crud.read), ("update", crud.update),
    ("delete", crud.delete), ("list", crud.list), ("bulkCreate", crud.bulkCreate),
    ("bulkUpdate", crud.bulkUpdate), ("bulkDelete", crud.bulkDelete),
    ("upsert", crud.upsert), ("count", crud.count)].filterMap
      fun (name, on) => if on then some name else none

end Crud

namespace FieldType

def isList : FieldType → Bool
  | .array _ => true
  | _ => false

/-- The type of the elements, under any number of array layers. -/
def element : FieldType → FieldType
  | .array items => items.element
  | type => type

def referencedModel? (type : FieldType) : Option String :=
  match type.element with
  | .reference model => some model
  | _ => none

def referencedEnum? (type : FieldType) : Option String :=
  match type.element with
  | .enumeration name => some name
  | _ => none

end FieldType

namespace Field

/-- Whether input must carry the field. Primary keys are filled in by the system. -/
def inputRequired (field : Field) : Bool :=
  field.required && !field.primaryKey

def column (field : Field) : String :=
  field.columnName.getD field.name

end Field

namespace Model

def field? (model : Model) (name : String) : Option Field :=
  model.fields.find? (·.name == name)

def primaryKey? (model : Model) : Option Field :=
  model.fields.find? (·.primaryKey)

def inputFields (model : Model) : List Field :=
  model.fields.filter fun f => !f.primaryKey && !f.readOnly

def outputFields (model : Model) : List Field :=
  model.fields.filter fun f => !f.hidden && !f.writeOnly

end Model

namespace Schema

def model? (schema : Schema) (name : String) : Option Model :=
  schema.models.find? (·.name == name)

def enum? (schema : Schema) (name : String) : Option Enumeration :=
  schema.enums.find? (·.name == name)

def relationsOf (schema : Schema) (model : String) : List Relation :=
  schema.relations.filter fun r => r.source.model == model || r.target.model == model

end Schema

end Scaffold
