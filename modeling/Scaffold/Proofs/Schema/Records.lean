import Scaffold.Proofs.Json.Records
import Scaffold.Schema.Codec

/-!
The records of a schema read back. What is left out when a field is written is what the field is when
nothing is read.
-/

namespace Scaffold

open Json (LawfulNamed Slots present readOptional readOptional_map exists_record?_present)

instance : LawfulNamed Scalar where
  named?_name s := by cases s <;> rfl

instance : LawfulNamed DefaultFunction where
  named?_name f := by cases f <;> rfl

instance : LawfulNamed Cardinality where
  named?_name c := by cases c <;> rfl

instance : LawfulNamed ReferentialAction where
  named?_name a := by cases a <;> rfl

instance : LawfulNamed ConstraintKind where
  named?_name k := by cases k <;> rfl

theorem Instant.readOptional {t : Option Instant}
    (reads : ∀ i, t = some i → Instant.parse? i.text = some i) :
    readOptional Instant.ofJson? (t.map Instant.toJson) = some t := by
  refine readOptional_map (fun i written => ?_) fun _ _ => nofun
  rw [toJson, ofJson?, Json.string?_string, Option.bind_some]
  exact reads i written

namespace FieldDefault

theorem decode?_toJson (held : Bool) (d : FieldDefault) : decode? held d.toJson = some d := by
  cases d with
  | literal value =>
      change (Json.Value.ofJson? value.tree).map literal = some (literal value)
      rw [value.ofJson?_tree]
      rfl
  | function f =>
      change (Json.heldChoice? held (Json.ofNamed f)).map function = some (function f)
      rw [Json.heldChoice?_ofNamed]
      rfl
  | expression text => rfl

@[simp] theorem readOptional_toJson (held : Bool) (d : Option FieldDefault) :
    readOptional (decode? held) (d.map toJson) = some d :=
  readOptional_map (fun d _ => d.decode?_toJson held) fun d _ => by cases d <;> nofun

end FieldDefault

namespace ValidationRules

/-- Whether the bounds are numbers. -/
structure Finite (r : ValidationRules) : Prop where
  min : ∀ x, r.min = some x → x.isFinite
  max : ∀ x, r.max = some x → x.isFinite

def slots (r : ValidationRules) : Slots :=
  [("min", r.min.map Json.ofFloat), ("max", r.max.map Json.ofFloat),
    ("minLength", r.minLength.map fun n => .ofNat n.toNat),
    ("maxLength", r.maxLength.map fun n => .ofNat n.toNat), ("pattern", r.pattern.map .string),
    ("email", some (.bool r.email)), ("url", some (.bool r.url)), ("uuid", some (.bool r.uuid)),
    ("positive", some (.bool r.positive)), ("integer", some (.bool r.integer)),
    ("minItems", r.minItems.map fun n => .ofNat n.toNat),
    ("maxItems", r.maxItems.map fun n => .ofNat n.toNat),
    ("uniqueItems", some (.bool r.uniqueItems)), ("message", r.message.map .string)]

theorem toJson_eq (r : ValidationRules) : r.toJson = .object (present r.slots) := by
  simp [toJson, slots]

theorem ofJson?_toJson {r : ValidationRules} (finite : r.Finite) : ofJson? r.toJson = some r := by
  have distinct : (r.slots.map (·.1)).Nodup := by simp [slots]
  obtain ⟨ms, record, look⟩ := exists_record?_present distinct _
  rw [toJson_eq, ofJson?, record]
  dsimp only [Option.bind_eq_bind, Option.bind_some]
  simp [look, slots, lookup_cons_eq, Json.readOptional_float finite.min, Json.readOptional_float finite.max]

theorem readOptional_toJson {r : Option ValidationRules} (finite : ∀ s, r = some s → s.Finite) :
    readOptional ofJson? (r.map toJson) = some r :=
  readOptional_map (fun s some => ofJson?_toJson (finite s some)) fun _ _ => nofun

end ValidationRules

namespace JoinTable

theorem ofJson?_toJson (t : JoinTable) : ofJson? t.toJson = some t := rfl

@[simp] theorem readOptional_toJson (t : Option JoinTable) :
    readOptional ofJson? (t.map toJson) = some t :=
  readOptional_map (fun t _ => t.ofJson?_toJson) fun _ _ => nofun

end JoinTable

namespace RelationHint

def slots (h : RelationHint) : Slots :=
  [("model", some (.string h.model)), ("type", some (Json.ofNamed h.cardinality)),
    ("name", h.name.map .string), ("references", h.references.map .string),
    ("onDelete", h.onDelete.map Json.ofNamed), ("onUpdate", h.onUpdate.map Json.ofNamed),
    ("through", h.through.map JoinTable.toJson)]

theorem toJson_eq (h : RelationHint) : h.toJson = .object (present h.slots) := by
  simp [toJson, slots]

theorem decode?_toJson (held : Bool) (h : RelationHint) : decode? held h.toJson = some h := by
  have distinct : (h.slots.map (·.1)).Nodup := by simp [slots]
  obtain ⟨ms, record, look⟩ := exists_record?_present distinct _
  rw [toJson_eq, decode?, record]
  dsimp only [Option.bind_eq_bind, Option.bind_some]
  simp [look, slots, lookup_cons_eq]

@[simp] theorem readOptional_toJson (held : Bool) (h : Option RelationHint) :
    readOptional (decode? held) (h.map toJson) = some h :=
  readOptional_map (fun h _ => h.decode?_toJson held) fun _ _ => nofun

end RelationHint

namespace Index

def slots (i : Index) : Slots :=
  [("name", i.name.map .string), ("fields", some (.strings i.fields)),
    ("unique", some (.bool i.unique))]

theorem toJson_eq (i : Index) : i.toJson = .object (present i.slots) := by
  simp [toJson, slots]

theorem ofJson?_toJson (i : Index) : ofJson? i.toJson = some i := by
  have distinct : (i.slots.map (·.1)).Nodup := by simp [slots]
  obtain ⟨ms, record, look⟩ := exists_record?_present distinct _
  rw [toJson_eq, ofJson?, record]
  dsimp only [Option.bind_eq_bind, Option.bind_some]
  simp [look, slots, lookup_cons_eq]

end Index

namespace Constraint

def slots (c : Constraint) : Slots :=
  [("name", c.name.map .string), ("kind", some (Json.ofNamed c.kind)),
    ("fields", some (.strings c.fields)), ("expression", c.expression.map .string)]

theorem toJson_eq (c : Constraint) : c.toJson = .object (present c.slots) := by
  simp [toJson, slots]

theorem ofJson?_toJson (c : Constraint) : ofJson? c.toJson = some c := by
  have distinct : (c.slots.map (·.1)).Nodup := by simp [slots]
  obtain ⟨ms, record, look⟩ := exists_record?_present distinct _
  rw [toJson_eq, ofJson?, record]
  dsimp only [Option.bind_eq_bind, Option.bind_some]
  simp [look, slots, lookup_cons_eq]

end Constraint

namespace ModelAuth

def slots (a : ModelAuth) : Slots :=
  [("required", some (.bool a.required)),
    ("roles", if a.roles = [] then none else some (.ofList .string a.roles)),
    ("ownerField", a.ownerField.map .string)]

theorem toJson_eq (a : ModelAuth) : a.toJson = .object (present a.slots) := by
  simp [toJson, slots]

theorem ofJson?_toJson (a : ModelAuth) : ofJson? a.toJson = some a := by
  have distinct : (a.slots.map (·.1)).Nodup := by simp [slots]
  have roles : Json.readDefaulted [] (Json.list? Json.string?)
      (if a.roles = [] then none else some (.ofList .string a.roles)) = some a.roles :=
    Json.readDefaulted_items fun _ _ => rfl
  obtain ⟨ms, record, look⟩ := exists_record?_present distinct _
  rw [toJson_eq, ofJson?, record]
  dsimp only [Option.bind_eq_bind, Option.bind_some]
  simp [look, slots, lookup_cons_eq, roles]

@[simp] theorem readOptional_toJson (a : Option ModelAuth) :
    readOptional ofJson? (a.map toJson) = some a :=
  readOptional_map (fun a _ => a.ofJson?_toJson) fun _ _ => nofun

end ModelAuth

@[simp] theorem Crud.ofJson?_toJson (c : Crud) : ofJson? c.toJson = some c := rfl

namespace SchemaMetadata

def slots (m : SchemaMetadata) : Slots :=
  [("name", some (.string m.name)), ("description", m.description.map .string),
    ("source", some (.string m.source)), ("sourceVersion", m.sourceVersion.map .string),
    ("filePath", m.filePath.map .string), ("generatedAt", m.generatedAt.map Instant.toJson)]

theorem toJson_eq (m : SchemaMetadata) : m.toJson = .object (present m.slots) := by
  simp [toJson, slots]

theorem ofJson?_toJson {m : SchemaMetadata}
    (reads : ∀ t, m.generatedAt = some t → Instant.parse? t.text = some t) :
    ofJson? m.toJson = some m := by
  have distinct : (m.slots.map (·.1)).Nodup := by simp [slots]
  obtain ⟨ms, record, look⟩ := exists_record?_present distinct _
  rw [toJson_eq, ofJson?, record]
  dsimp only [Option.bind_eq_bind, Option.bind_some]
  simp [look, slots, lookup_cons_eq, Instant.readOptional reads]

end SchemaMetadata

namespace EnumValue

def slots (v : EnumValue) : Slots :=
  [("name", some (.string v.name)), ("value", v.value.map .string)]

theorem toJson_eq (v : EnumValue) : v.toJson = .object (present v.slots) := by
  simp [toJson, slots]

theorem ofJson?_toJson (v : EnumValue) : ofJson? v.toJson = some v := by
  have distinct : (v.slots.map (·.1)).Nodup := by simp [slots]
  obtain ⟨ms, record, look⟩ := exists_record?_present distinct _
  rw [toJson_eq, ofJson?, record]
  dsimp only [Option.bind_eq_bind, Option.bind_some]
  simp [look, slots, lookup_cons_eq]

end EnumValue

namespace Enumeration

def slots (e : Enumeration) : Slots :=
  [("name", some (.string e.name)), ("values", some (.ofList EnumValue.toJson e.values)),
    ("description", e.description.map .string)]

theorem toJson_eq (e : Enumeration) : e.toJson = .object (present e.slots) := by
  simp [toJson, slots]

theorem ofJson?_toJson (e : Enumeration) : ofJson? e.toJson = some e := by
  have distinct : (e.slots.map (·.1)).Nodup := by simp [slots]
  have values : Json.list? EnumValue.ofJson? (.ofList EnumValue.toJson e.values) = some e.values :=
    Json.list?_ofList fun v _ => v.ofJson?_toJson
  obtain ⟨ms, record, look⟩ := exists_record?_present distinct _
  rw [toJson_eq, ofJson?, record]
  dsimp only [Option.bind_eq_bind, Option.bind_some]
  simp [look, slots, lookup_cons_eq, values]

end Enumeration

@[simp] theorem RelationEnd.ofJson?_toJson (e : RelationEnd) : ofJson? e.toJson = some e := rfl

namespace Relation

def slots (r : Relation) : Slots :=
  [("name", some (.string r.name)), ("type", some (Json.ofNamed r.cardinality)),
    ("from", some r.source.toJson), ("to", some r.target.toJson),
    ("onDelete", r.onDelete.map Json.ofNamed), ("onUpdate", r.onUpdate.map Json.ofNamed),
    ("through", r.through.map JoinTable.toJson)]

theorem toJson_eq (r : Relation) : r.toJson = .object (present r.slots) := by
  simp [toJson, slots]

theorem ofJson?_toJson (r : Relation) : ofJson? r.toJson = some r := by
  have distinct : (r.slots.map (·.1)).Nodup := by simp [slots]
  obtain ⟨ms, record, look⟩ := exists_record?_present distinct _
  rw [toJson_eq, ofJson?, record]
  dsimp only [Option.bind_eq_bind, Option.bind_some]
  simp [look, slots, lookup_cons_eq]

end Relation

end Scaffold
