import Mathlib.Data.List.Forall2
import Scaffold.Proofs.Schema.Warnings
import Scaffold.Schema.Relations

/-!
Every hint is met or reported. A field's hint becomes a relation where some model has the name that
it gives, and a check warns of it where none has.
-/

namespace Scaffold

/-- A field of a model with its hint. -/
structure Hinted where
  model : Model
  field : Field
  hint : RelationHint

/-- The models' own fields that have a hint, in the order of models and fields. -/
def hintedFields (models : List Model) : List Hinted :=
  models.flatMap fun model => model.fields.filterMap fun field =>
    field.relation.map (⟨model, field, ·⟩)

namespace Hinted

/-- Some model has the name that the hint gives. -/
def Meets (models : List Model) (h : Hinted) : Prop :=
  ∃ model ∈ models, model.name = h.hint.model

instance (models : List Model) : DecidablePred (Meets models) :=
  fun h => inferInstanceAs (Decidable (∃ model ∈ models, model.name = h.hint.model))

def warning (h : Hinted) : String :=
  s!"relation `{h.model.name}.{h.field.name}` targets unknown model `{h.hint.model}` "
    ++ "and was not materialized"

/-- What a relation has from its hint, and from the first model with the name that the hint gives:
the target's field is the one that the hint refers to, else that model's primary key, else `id`. -/
structure Becomes (models : List Model) (h : Hinted) (r : Relation) : Prop where
  name : r.name = h.hint.relationName h.model h.field
  cardinality : r.cardinality = h.hint.cardinality
  source : r.source = ⟨h.model.name, h.field.name⟩
  target : ∃ before first after, models = before ++ first :: after ∧
    first.name = h.hint.model ∧ (∀ model ∈ before, model.name ≠ h.hint.model) ∧
    r.target = ⟨h.hint.model,
      h.hint.references.getD ((first.primaryKey?.map (·.name)).getD "id")⟩
  onDelete : r.onDelete = h.hint.onDelete
  onUpdate : r.onUpdate = h.hint.onUpdate
  through : r.through = h.hint.through

/-- The relation that a hint stands for, if it meets a model. -/
def relation? (models : List Model) (h : Hinted) : Option Relation :=
  (models.find? (·.name == h.hint.model)).map fun target => {
    name := h.hint.relationName h.model h.field
    cardinality := h.hint.cardinality
    source := ⟨h.model.name, h.field.name⟩
    target := ⟨target.name, h.hint.targetField target⟩
    onDelete := h.hint.onDelete
    onUpdate := h.hint.onUpdate
    through := h.hint.through }

variable {models : List Model} {h : Hinted}

theorem isSome_relation? : (h.relation? models).isSome ↔ h.Meets models := by
  simp [relation?, Meets]

theorem targetField_eq (hint : RelationHint) (target : Model) :
    hint.targetField target =
      hint.references.getD ((target.primaryKey?.map (·.name)).getD "id") := by
  unfold RelationHint.targetField
  cases hint.references <;> rfl

theorem becomes_of_relation? {r : Relation} (made : h.relation? models = some r) :
    h.Becomes models r := by
  obtain ⟨target, found, rfl⟩ := Option.map_eq_some_iff.1 made
  obtain ⟨named, before, after, split, earlier⟩ := List.find?_eq_some_iff_append.1 found
  have named : target.name = h.hint.model := eq_of_beq named
  refine ⟨rfl, rfl, rfl, ⟨before, target, after, split, named, ?_, ?_⟩, rfl, rfl, rfl⟩
  · intro model member same
    simpa [same] using earlier model member
  · rw [named, targetField_eq]

end Hinted

/-! Relations and warnings, both from the hinted fields. -/

theorem Field.relation?_eq (field : Field) (model : Model) (models : List Model) :
    field.relation? model models =
      (field.relation.map (Hinted.mk model field)).bind (Hinted.relation? models) := by
  unfold relation?
  cases field.relation with
  | none => rfl
  | some hint =>
      rw [Option.map_some, Option.bind_some, Hinted.relation?, Option.map_eq_bind]
      rfl

theorem deriveRelations_eq (models : List Model) :
    deriveRelations models = (hintedFields models).filterMap (Hinted.relation? models) := by
  simp only [deriveRelations, hintedFields, List.filterMap_flatMap, List.filterMap_filterMap,
    Field.relation?_eq]

theorem Schema.hintWarnings_eq (schema : Schema) (model : Model) (field : Field) :
    schema.hintWarnings model field =
      ((field.relation.map (Hinted.mk model field)).toList.filter
        fun h => ¬h.Meets schema.models).map Hinted.warning := by
  unfold hintWarnings
  cases field.relation with
  | none => rfl
  | some hint =>
      simp only [isNone_model?, Option.map_some, Option.toList_some]
      by_cases met : schema.Declares (.model hint.model)
      · have meets : Hinted.Meets schema.models ⟨model, field, hint⟩ := met
        simp [met, meets]
      · have fails : ¬Hinted.Meets schema.models ⟨model, field, hint⟩ := met
        rw [if_pos met, List.filter_cons_of_pos (by simpa using fails)]
        rfl

theorem Schema.warningsOn_relation_eq (schema : Schema) :
    schema.warningsOn .relation =
      ((hintedFields schema.models).filter fun h => ¬h.Meets schema.models).map Hinted.warning := by
  rw [warningsOn_relation, hintedFields, List.filter_flatMap, List.map_flatMap]
  refine List.flatMap_congr fun model _ => ?_
  rw [List.filterMap_eq_flatMap_toList, List.filter_flatMap, List.map_flatMap]
  exact List.flatMap_congr fun field _ => schema.hintWarnings_eq model field

/-- What is kept of a list is what has an image, each item before its image. -/
theorem forall₂_filterMap {f : α → Option β} {p : α → Bool} {R : α → β → Prop}
    (kept : ∀ a, (f a).isSome ↔ p a) (related : ∀ a b, f a = some b → R a b) (as : List α) :
    List.Forall₂ R (as.filter p) (as.filterMap f) := by
  induction as with
  | nil => exact .nil
  | cons a as ih =>
      cases image : f a with
      | none =>
          have dropped : ¬p a := by simp [← kept, image]
          rwa [List.filter_cons_of_neg dropped, List.filterMap_cons_none image]
      | some b =>
          have stays : p a := (kept a).1 (by simp [image])
          rw [List.filter_cons_of_pos stays, List.filterMap_cons_some image]
          exact .cons (related a b image) ih

variable (models : List Model)

theorem forall₂_deriveRelations :
    List.Forall₂ (Hinted.Becomes models) ((hintedFields models).filter (·.Meets models))
      (deriveRelations models) := by
  rw [deriveRelations_eq]
  refine forall₂_filterMap (fun h => ?_) (fun h r => Hinted.becomes_of_relation?) _
  rw [Hinted.isSome_relation?, decide_eq_true_iff]

theorem mem_hintedFields {h : Hinted} (member : h ∈ hintedFields models) : h.model ∈ models := by
  obtain ⟨model, here, inside⟩ := List.mem_flatMap.1 member
  obtain ⟨field, -, made⟩ := List.mem_filterMap.1 inside
  obtain ⟨hint, -, rfl⟩ := Option.map_eq_some_iff.1 made
  exact here

theorem Hinted.Becomes.mem_ends {h : Hinted} {r : Relation} (becomes : h.Becomes models r)
    (own : h.model ∈ models) :
    r.source.model ∈ models.map (·.name) ∧ r.target.model ∈ models.map (·.name) := by
  obtain ⟨before, first, after, split, named, -, ends⟩ := becomes.target
  rw [becomes.source, ends]
  refine ⟨List.mem_map_of_mem own, List.mem_map.2 ⟨first, ?_, named⟩⟩
  rw [split]
  exact List.mem_append_right _ List.mem_cons_self

theorem ends_of_mem_deriveRelations {r : Relation} (member : r ∈ deriveRelations models) :
    r.source.model ∈ models.map (·.name) ∧ r.target.model ∈ models.map (·.name) := by
  rw [deriveRelations_eq] at member
  obtain ⟨h, hinted, made⟩ := List.mem_filterMap.1 member
  exact (Hinted.becomes_of_relation? made).mem_ends models (mem_hintedFields models hinted)

/-- The hinted fields of a schema fall into those whose hint has become a relation and those that a
check reports, each side in their order. Deriving the relations once more changes nothing. -/
theorem hints_settled (metadata : SchemaMetadata) (enums : List Enumeration) :
    let schema := Schema.new metadata models enums
    let hinted := hintedFields models
    List.Forall₂ (Hinted.Becomes models) (hinted.filter (·.Meets models))
      (deriveRelations models) ∧
    schema.relations = deriveRelations models ∧
    schema.warningsOn .relation =
      (hinted.filter fun h => ¬h.Meets models).map Hinted.warning ∧
    schema.relations.length + (schema.warningsOn .relation).length = hinted.length ∧
    (∀ r ∈ schema.relations, r.source.model ∈ models.map (·.name) ∧
      r.target.model ∈ models.map (·.name)) ∧
    schema.withDerivedRelations = schema ∧
    ∀ other : Schema,
      other.withDerivedRelations.withDerivedRelations = other.withDerivedRelations := by
  intro schema hinted
  have related := forall₂_deriveRelations models
  have reported : schema.warningsOn .relation =
      (hinted.filter fun h => ¬h.Meets models).map Hinted.warning := schema.warningsOn_relation_eq
  refine ⟨related, rfl, reported, ?_, fun r => ends_of_mem_deriveRelations models, rfl, fun _ => rfl⟩
  change (deriveRelations models).length + _ = _
  rw [reported, List.length_map, ← related.length_eq]
  simpa using (hinted.length_eq_length_filter_add fun h => decide (h.Meets models)).symm

/-- A hint at its own model's name leads to the first model of that name, which has no primary key
here; a hint at no model is reported. -/
example :
    let hinting (name model : String) : Field :=
      { Field.new name (.reference model) false with relation := some (.new model .manyToOne) }
    let key : Field := { Field.new "key" (.scalar .uuid) true with primaryKey := true }
    let models : List Model := [
      { name := "User", fields := [hinting "boss" "User", hinting "team" "Team"] },
      { name := "User", fields := [key, hinting "boss" "User"] }]
    (deriveRelations models).map (fun r => (r.name, r.target.field)) =
        [("UserBoss", "id"), ("UserBoss", "id")] ∧
      (Schema.new {} models []).warningsOn .relation =
        ["relation `User.team` targets unknown model `Team` and was not materialized"] := by
  decide

end Scaffold
