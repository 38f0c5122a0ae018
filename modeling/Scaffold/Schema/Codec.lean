import Scaffold.Schema.Check

/-!
Schemas as JSON documents. Encoding writes members in the order of the fields and leaves out what is
absent; decoding fills in defaults.
-/

namespace Scaffold

open Json (Members)

def Instant.toJson (t : Instant) : Json := .string t.text

def Instant.ofJson? (j : Json) : Option Instant := j.string?.bind Instant.parse?

namespace FieldDefault

def toJson : FieldDefault → Json
  | .literal value => .object [("kind", .string "literal"), ("value", value.tree)]
  | .function f => .object [("kind", .string "function"), ("value", Json.ofNamed f)]
  | .expression text => .object [("kind", .string "expression"), ("value", .string text)]

def tags : List String := ["literal", "function", "expression"]

def ofContent? (held : Bool) (tag : String) (content : Json) : Option FieldDefault :=
  match tag with
  | "literal" => (Json.Value.ofJson? content).map .literal
  | "function" => (content.heldChoice? held).map .function
  | "expression" => content.string?.map .expression
  | _ => none

/-- Decodes a default: an object with the tag and the content, or an array of both. A content in front
of its tag is held back. -/
def decode? (held : Bool) : Json → Option FieldDefault
  | .object members =>
      match Json.known ["kind", "value"] members with
      | [(first, a), (second, b)] =>
          if first = "kind" ∧ second = "value" then do ofContent? held (← a.name? held) b
          else if first = "value" ∧ second = "kind" then do ofContent? true (← b.name? held) a
          else none
      | _ => none
  | .array [tag, content] => do ofContent? held (← tag.tag? held tags) content
  | _ => none

def ofJson? : Json → Option FieldDefault :=
  decode? false

end FieldDefault

namespace ValidationRules

def toJson (r : ValidationRules) : Json :=
  .object
    (Json.optionalMember "min" Json.ofFloat r.min
      ++ Json.optionalMember "max" Json.ofFloat r.max
      ++ Json.optionalMember "minLength" (fun n => .ofNat n.toNat) r.minLength
      ++ Json.optionalMember "maxLength" (fun n => .ofNat n.toNat) r.maxLength
      ++ Json.optionalMember "pattern" .string r.pattern
      ++ [("email", .bool r.email), ("url", .bool r.url), ("uuid", .bool r.uuid),
        ("positive", .bool r.positive), ("integer", .bool r.integer)]
      ++ Json.optionalMember "minItems" (fun n => .ofNat n.toNat) r.minItems
      ++ Json.optionalMember "maxItems" (fun n => .ofNat n.toNat) r.maxItems
      ++ [("uniqueItems", .bool r.uniqueItems)]
      ++ Json.optionalMember "message" .string r.message)

def keys : List String :=
  ["min", "max", "minLength", "maxLength", "pattern", "email", "url", "uuid", "positive", "integer",
    "minItems", "maxItems", "uniqueItems", "message"]

def ofJson? (j : Json) : Option ValidationRules := do
  let ms ← j.record? keys
  return {
    min := ← ms.optional "min" Json.float?
    max := ← ms.optional "max" Json.float?
    minLength := ← ms.optional "minLength" Json.uint64?
    maxLength := ← ms.optional "maxLength" Json.uint64?
    pattern := ← ms.optional "pattern" Json.string?
    email := ← ms.defaulted "email" false Json.bool?
    url := ← ms.defaulted "url" false Json.bool?
    uuid := ← ms.defaulted "uuid" false Json.bool?
    positive := ← ms.defaulted "positive" false Json.bool?
    integer := ← ms.defaulted "integer" false Json.bool?
    minItems := ← ms.optional "minItems" Json.uint64?
    maxItems := ← ms.optional "maxItems" Json.uint64?
    uniqueItems := ← ms.defaulted "uniqueItems" false Json.bool?
    message := ← ms.optional "message" Json.string? }

end ValidationRules

namespace JoinTable

def toJson (t : JoinTable) : Json :=
  .object [("table", .string t.table), ("fromField", .string t.fromField),
    ("toField", .string t.toField)]

def ofJson? (j : Json) : Option JoinTable := do
  let ms ← j.record? ["table", "fromField", "toField"]
  return {
    table := ← ms.required "table" Json.string?
    fromField := ← ms.required "fromField" Json.string?
    toField := ← ms.required "toField" Json.string? }

end JoinTable

namespace RelationHint

def toJson (h : RelationHint) : Json :=
  .object
    ([("model", .string h.model), ("type", Json.ofNamed h.cardinality)]
      ++ Json.optionalMember "name" .string h.name
      ++ Json.optionalMember "references" .string h.references
      ++ Json.optionalMember "onDelete" Json.ofNamed h.onDelete
      ++ Json.optionalMember "onUpdate" Json.ofNamed h.onUpdate
      ++ Json.optionalMember "through" JoinTable.toJson h.through)

def decode? (held : Bool) (j : Json) : Option RelationHint := do
  let ms ← j.record? ["model", "type", "name", "references", "onDelete", "onUpdate", "through"]
  return {
    model := ← ms.required "model" Json.string?
    cardinality := ← ms.required "type" (Json.heldChoice? held)
    name := ← ms.optional "name" Json.string?
    references := ← ms.optional "references" Json.string?
    onDelete := ← ms.optional "onDelete" (Json.heldChoice? held)
    onUpdate := ← ms.optional "onUpdate" (Json.heldChoice? held)
    through := ← ms.optional "through" JoinTable.ofJson? }

def ofJson? : Json → Option RelationHint :=
  decode? false

end RelationHint

mutual

def FieldType.toJson : FieldType → Json
  | .scalar s => .object [("kind", .string "scalar"), ("scalar", Json.ofNamed s)]
  | .enumeration name => .object [("kind", .string "enum"), ("name", .string name)]
  | .array items => .object [("kind", .string "array"), ("items", items.toJson)]
  | .object fields => .object [("kind", .string "object"), ("fields", .array (Field.listToJson fields))]
  | .reference model => .object [("kind", .string "reference"), ("model", .string model)]

def Field.listToJson : List Field → List Json
  | [] => []
  | ⟨name, type, required, unique, primaryKey, default, validation, relation, columnName, hidden,
      readOnly, writeOnly, description⟩ :: fields =>
      .object
        ([("name", .string name), ("type", type.toJson), ("required", .bool required),
            ("unique", .bool unique), ("primaryKey", .bool primaryKey)]
          ++ Json.optionalMember "default" FieldDefault.toJson default
          ++ Json.optionalMember "validation" ValidationRules.toJson validation
          ++ Json.optionalMember "relation" RelationHint.toJson relation
          ++ Json.optionalMember "columnName" .string columnName
          ++ [("hidden", .bool hidden), ("readOnly", .bool readOnly),
            ("writeOnly", .bool writeOnly)]
          ++ Json.optionalMember "description" .string description)
        :: Field.listToJson fields

end

def Field.toJson (field : Field) : Json :=
  (Field.listToJson [field]).headD .null

def FieldType.tags : List String := ["scalar", "enum", "array", "object", "reference"]

/-- Splits a type into its tag and the rest: an object with the tag as one of its members, or an array
with the tag in front. -/
def FieldType.tagged? (held : Bool) : Json → Option (String × Json)
  | .object members =>
      match members.filter (·.1 == "kind") with
      | [(_, tag)] =>
          (tag.tag? held FieldType.tags).map (·, .object (members.filter (·.1 != "kind")))
      | _ => none
  | .array (tag :: items) => (tag.tag? held FieldType.tags).map (·, .array items)
  | _ => none

def Field.keys : List String :=
  ["name", "type", "required", "unique", "primaryKey", "default", "validation", "relation",
    "columnName", "hidden", "readOnly", "writeOnly", "description"]

mutual

/-- Decodes a type no deeper than `fuel` levels. All that it holds beside its tag was held back. -/
def FieldType.decode? : (fuel : Nat) → (held : Bool) → Json → Option FieldType
  | 0, _, _ => none
  | fuel + 1, held, j => do
      let (tag, rest) ← FieldType.tagged? held j
      match tag with
      | "scalar" =>
          let ms ← rest.record? ["scalar"]
          return .scalar (← ms.required "scalar" (Json.heldChoice? true))
      | "enum" =>
          let ms ← rest.record? ["name"]
          return .enumeration (← ms.required "name" Json.string?)
      | "array" =>
          let ms ← rest.record? ["items"]
          return .array (← ms.required "items" (FieldType.decode? fuel true))
      | "object" =>
          let ms ← rest.record? ["fields"]
          return .object (← ms.required "fields" (Json.list? (Field.decode? fuel true)))
      | "reference" =>
          let ms ← rest.record? ["model"]
          return .reference (← ms.required "model" Json.string?)
      | _ => none

def Field.decode? : (fuel : Nat) → (held : Bool) → Json → Option Field
  | 0, _, _ => none
  | fuel + 1, held, j => do
      let ms ← j.record? Field.keys
      return {
        name := ← ms.required "name" Json.string?
        type := ← ms.required "type" fun j =>
          if j.readable then FieldType.decode? fuel held j else none
        required := ← ms.required "required" Json.bool?
        unique := ← ms.defaulted "unique" false Json.bool?
        primaryKey := ← ms.defaulted "primaryKey" false Json.bool?
        default := ← ms.optional "default" (FieldDefault.decode? held)
        validation := ← ms.optional "validation" ValidationRules.ofJson?
        relation := ← ms.optional "relation" (RelationHint.decode? held)
        columnName := ← ms.optional "columnName" Json.string?
        hidden := ← ms.defaulted "hidden" false Json.bool?
        readOnly := ← ms.defaulted "readOnly" false Json.bool?
        writeOnly := ← ms.defaulted "writeOnly" false Json.bool?
        description := ← ms.optional "description" Json.string? }

end

/-- Every level of a type is a level of its tree, so the tree's depth is fuel enough. -/
def FieldType.ofJson? (j : Json) : Option FieldType :=
  if j.readable then FieldType.decode? j.depth false j else none

def Field.ofJson? (j : Json) : Option Field :=
  Field.decode? j.depth false j

namespace Index

def toJson (i : Index) : Json :=
  .object
    (Json.optionalMember "name" .string i.name
      ++ [("fields", .strings i.fields), ("unique", .bool i.unique)])

def ofJson? (j : Json) : Option Index := do
  let ms ← j.record? ["name", "fields", "unique"]
  return {
    name := ← ms.optional "name" Json.string?
    fields := ← ms.required "fields" (Json.list? Json.string?)
    unique := ← ms.defaulted "unique" false Json.bool? }

end Index

namespace Constraint

def toJson (c : Constraint) : Json :=
  .object
    (Json.optionalMember "name" .string c.name
      ++ [("kind", Json.ofNamed c.kind), ("fields", .strings c.fields)]
      ++ Json.optionalMember "expression" .string c.expression)

def ofJson? (j : Json) : Option Constraint := do
  let ms ← j.record? ["name", "kind", "fields", "expression"]
  return {
    name := ← ms.optional "name" Json.string?
    kind := ← ms.required "kind" Json.choice?
    fields := ← ms.defaulted "fields" [] (Json.list? Json.string?)
    expression := ← ms.optional "expression" Json.string? }

end Constraint

namespace ModelAuth

def toJson (a : ModelAuth) : Json :=
  .object
    ([("required", .bool a.required)]
      ++ Json.nonemptyMember "roles" .string a.roles
      ++ Json.optionalMember "ownerField" .string a.ownerField)

def ofJson? (j : Json) : Option ModelAuth := do
  let ms ← j.record? ["required", "roles", "ownerField"]
  return {
    required := ← ms.defaulted "required" false Json.bool?
    roles := ← ms.defaulted "roles" [] (Json.list? Json.string?)
    ownerField := ← ms.optional "ownerField" Json.string? }

end ModelAuth

namespace Crud

def toJson (c : Crud) : Json :=
  .object [("create", .bool c.create), ("read", .bool c.read), ("update", .bool c.update),
    ("delete", .bool c.delete), ("list", .bool c.list), ("bulkCreate", .bool c.bulkCreate),
    ("bulkUpdate", .bool c.bulkUpdate), ("bulkDelete", .bool c.bulkDelete),
    ("upsert", .bool c.upsert), ("count", .bool c.count)]

def keys : List String :=
  ["create", "read", "update", "delete", "list", "bulkCreate", "bulkUpdate", "bulkDelete", "upsert",
    "count"]

def ofJson? (j : Json) : Option Crud := do
  let ms ← j.record? keys
  return {
    create := ← ms.defaulted "create" true Json.bool?
    read := ← ms.defaulted "read" true Json.bool?
    update := ← ms.defaulted "update" true Json.bool?
    delete := ← ms.defaulted "delete" true Json.bool?
    list := ← ms.defaulted "list" true Json.bool?
    bulkCreate := ← ms.defaulted "bulkCreate" false Json.bool?
    bulkUpdate := ← ms.defaulted "bulkUpdate" false Json.bool?
    bulkDelete := ← ms.defaulted "bulkDelete" false Json.bool?
    upsert := ← ms.defaulted "upsert" false Json.bool?
    count := ← ms.defaulted "count" true Json.bool? }

end Crud

namespace Model

def toJson (m : Model) : Json :=
  .object
    ([("name", .string m.name), ("fields", .ofList Field.toJson m.fields)]
      ++ Json.nonemptyMember "indexes" Index.toJson m.indexes
      ++ Json.nonemptyMember "constraints" Constraint.toJson m.constraints
      ++ [("crud", m.crud.toJson)]
      ++ Json.optionalMember "auth" ModelAuth.toJson m.auth
      ++ [("softDelete", .bool m.softDelete), ("timestamps", .bool m.timestamps)]
      ++ Json.dictMember "meta" Json.Value.tree m.annotations)

def keys : List String :=
  ["name", "fields", "indexes", "constraints", "crud", "auth", "softDelete", "timestamps", "meta"]

def ofJson? (j : Json) : Option Model := do
  let ms ← j.record? keys
  return {
    name := ← ms.required "name" Json.string?
    fields := ← ms.required "fields" (Json.list? Field.ofJson?)
    indexes := ← ms.defaulted "indexes" [] (Json.list? Index.ofJson?)
    constraints := ← ms.defaulted "constraints" [] (Json.list? Constraint.ofJson?)
    crud := ← ms.defaulted "crud" {} Crud.ofJson?
    auth := ← ms.optional "auth" ModelAuth.ofJson?
    softDelete := ← ms.defaulted "softDelete" false Json.bool?
    timestamps := ← ms.defaulted "timestamps" false Json.bool?
    annotations := ← ms.defaulted "meta" {} (Json.dict? Json.Value.ofJson?) }

end Model

namespace SchemaMetadata

def toJson (m : SchemaMetadata) : Json :=
  .object
    ([("name", .string m.name)]
      ++ Json.optionalMember "description" .string m.description
      ++ [("source", .string m.source)]
      ++ Json.optionalMember "sourceVersion" .string m.sourceVersion
      ++ Json.optionalMember "filePath" .string m.filePath
      ++ Json.optionalMember "generatedAt" Instant.toJson m.generatedAt)

def ofJson? (j : Json) : Option SchemaMetadata := do
  let ms ← j.record?
    ["name", "description", "source", "sourceVersion", "filePath", "generatedAt"]
  return {
    name := ← ms.required "name" Json.string?
    description := ← ms.optional "description" Json.string?
    source := ← ms.required "source" Json.string?
    sourceVersion := ← ms.optional "sourceVersion" Json.string?
    filePath := ← ms.optional "filePath" Json.string?
    generatedAt := ← ms.optional "generatedAt" Instant.ofJson? }

end SchemaMetadata

namespace EnumValue

def toJson (v : EnumValue) : Json :=
  .object ([("name", .string v.name)] ++ Json.optionalMember "value" .string v.value)

def ofJson? (j : Json) : Option EnumValue := do
  let ms ← j.record? ["name", "value"]
  return {
    name := ← ms.required "name" Json.string?
    value := ← ms.optional "value" Json.string? }

end EnumValue

namespace Enumeration

def toJson (e : Enumeration) : Json :=
  .object
    ([("name", .string e.name), ("values", .ofList EnumValue.toJson e.values)]
      ++ Json.optionalMember "description" .string e.description)

def ofJson? (j : Json) : Option Enumeration := do
  let ms ← j.record? ["name", "values", "description"]
  return {
    name := ← ms.required "name" Json.string?
    values := ← ms.required "values" (Json.list? EnumValue.ofJson?)
    description := ← ms.optional "description" Json.string? }

end Enumeration

namespace RelationEnd

def toJson (e : RelationEnd) : Json :=
  .object [("model", .string e.model), ("field", .string e.field)]

def ofJson? (j : Json) : Option RelationEnd := do
  let ms ← j.record? ["model", "field"]
  return {
    model := ← ms.required "model" Json.string?
    field := ← ms.required "field" Json.string? }

end RelationEnd

namespace Relation

def toJson (r : Relation) : Json :=
  .object
    ([("name", .string r.name), ("type", Json.ofNamed r.cardinality), ("from", r.source.toJson),
        ("to", r.target.toJson)]
      ++ Json.optionalMember "onDelete" Json.ofNamed r.onDelete
      ++ Json.optionalMember "onUpdate" Json.ofNamed r.onUpdate
      ++ Json.optionalMember "through" JoinTable.toJson r.through)

def ofJson? (j : Json) : Option Relation := do
  let ms ← j.record? ["name", "type", "from", "to", "onDelete", "onUpdate", "through"]
  return {
    name := ← ms.required "name" Json.string?
    cardinality := ← ms.required "type" Json.choice?
    source := ← ms.required "from" RelationEnd.ofJson?
    target := ← ms.required "to" RelationEnd.ofJson?
    onDelete := ← ms.optional "onDelete" Json.choice?
    onUpdate := ← ms.optional "onUpdate" Json.choice?
    through := ← ms.optional "through" JoinTable.ofJson? }

end Relation

namespace Schema

def toJson (s : Schema) : Json :=
  .object [("version", .string s.version), ("metadata", s.metadata.toJson),
    ("models", .ofList Model.toJson s.models), ("enums", .ofList Enumeration.toJson s.enums),
    ("relations", .ofList Relation.toJson s.relations)]

def ofJson? (j : Json) : Option Schema := do
  let ms ← j.record? ["version", "metadata", "models", "enums", "relations"]
  return {
    version := ← ms.required "version" Json.string?
    metadata := ← ms.required "metadata" SchemaMetadata.ofJson?
    models := ← ms.required "models" (Json.list? Model.ofJson?)
    enums := ← ms.defaulted "enums" [] (Json.list? Enumeration.ofJson?)
    relations := ← ms.defaulted "relations" [] (Json.list? Relation.ofJson?) }

end Schema

end Scaffold
