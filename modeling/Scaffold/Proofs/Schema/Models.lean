import Scaffold.Proofs.Schema.FieldTypes

/-!
Models and schemas read back.
-/

namespace Scaffold

open Json (Slots present exists_record?_present)

namespace Model

def Finite (m : Model) : Prop :=
  ∀ f ∈ m.fields, f.Finite

def slots (m : Model) : Slots :=
  [("name", some (.string m.name)), ("fields", some (.ofList Field.toJson m.fields)),
    ("indexes", if m.indexes = [] then none else some (.ofList Index.toJson m.indexes)),
    ("constraints",
      if m.constraints = [] then none else some (.ofList Constraint.toJson m.constraints)),
    ("crud", some m.crud.toJson), ("auth", m.auth.map ModelAuth.toJson),
    ("softDelete", some (.bool m.softDelete)), ("timestamps", some (.bool m.timestamps)),
    ("meta",
      if m.annotations.entries = [] then none else some (.ofDict Json.Value.tree m.annotations))]

theorem toJson_eq (m : Model) : m.toJson = .object (present m.slots) := by
  simp [toJson, slots]

theorem ofJson?_toJson {m : Model} (finite : m.Finite) : ofJson? m.toJson = some m := by
  have distinct : (m.slots.map (·.1)).Nodup := by simp [slots]
  have fields : Json.list? Field.ofJson? (.ofList Field.toJson m.fields) = some m.fields :=
    Json.list?_ofList fun f member => Field.ofJson?_toJson (finite f member)
  have indexes := Json.readDefaulted_items fun i (_ : i ∈ m.indexes) => i.ofJson?_toJson
  have constraints := Json.readDefaulted_items fun c (_ : c ∈ m.constraints) => c.ofJson?_toJson
  have annotations : Json.readDefaulted {} (Json.dict? Json.Value.ofJson?)
      (if m.annotations.entries = [] then none
        else some (.ofDict Json.Value.tree m.annotations)) = some m.annotations :=
    Json.readDefaulted_entries Json.Value.ofJson?_tree
  obtain ⟨ms, record, look⟩ := exists_record?_present distinct _
  rw [toJson_eq, ofJson?, record]
  dsimp only [Option.bind_eq_bind, Option.bind_some]
  simp [look, slots, lookup_cons_eq, fields, indexes, constraints, annotations]

end Model

namespace Schema

def Finite (s : Schema) : Prop :=
  ∀ m ∈ s.models, m.Finite

/-- Whether the time of generation reads back as it is written. -/
def TimeReads (s : Schema) : Prop :=
  ∀ t, s.metadata.generatedAt = some t → Instant.parse? t.text = some t

theorem ofJson?_toJson {s : Schema} (finite : s.Finite) (time : s.TimeReads) :
    ofJson? s.toJson = some s := by
  have models : Json.list? Model.ofJson? (.ofList Model.toJson s.models) = some s.models :=
    Json.list?_ofList fun m member => Model.ofJson?_toJson (finite m member)
  have enums : Json.list? Enumeration.ofJson? (.ofList Enumeration.toJson s.enums) = some s.enums :=
    Json.list?_ofList fun e _ => e.ofJson?_toJson
  have relations : Json.list? Relation.ofJson? (.ofList Relation.toJson s.relations) =
      some s.relations :=
    Json.list?_ofList fun r _ => r.ofJson?_toJson
  simp [ofJson?, toJson, Json.record?, Json.known, Fields.required, Fields.defaulted, lookup_cons_eq,
    SchemaMetadata.ofJson?_toJson time, models, enums, relations]

end Schema

end Scaffold
