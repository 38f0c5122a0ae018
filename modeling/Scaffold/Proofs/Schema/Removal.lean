import Scaffold.Proofs.Schema.Hints

/-!
Removing models. A relation is left exactly if models of both its ends are left, and it stays as it
was: no hint is led elsewhere because other models are gone.
-/

namespace Scaffold

variable {keep : String → Bool} {models : List Model}

/-- Whether models of both its ends are kept. -/
def Relation.keptBy (keep : String → Bool) (r : Relation) : Bool :=
  keep r.source.model && keep r.target.model

/-- All models but those of a name; nothing else changes. -/
def Schema.withoutModel (schema : Schema) (name : String) : Schema :=
  { schema with models := schema.models.filter (·.name ≠ name) }

/-! Hints under removal. -/

def Model.hinted (model : Model) : List Hinted :=
  model.fields.filterMap fun field => field.relation.map (Hinted.mk model field)

theorem hintedFields_cons (model : Model) (models : List Model) :
    hintedFields (model :: models) = model.hinted ++ hintedFields models := by
  rw [hintedFields, List.flatMap_cons]
  rfl

theorem Model.eq_of_mem_hinted {model : Model} {h : Hinted} (member : h ∈ model.hinted) :
    h.model = model := by
  obtain ⟨field, -, made⟩ := List.mem_filterMap.1 member
  obtain ⟨hint, -, rfl⟩ := Option.map_eq_some_iff.1 made
  rfl

theorem hintedFields_filter :
    hintedFields (models.filter (keep ·.name)) =
      (hintedFields models).filter (keep ·.model.name) := by
  induction models with
  | nil => rfl
  | cons model models ih =>
      rw [hintedFields_cons, List.filter_append, ← ih]
      by_cases kept : keep model.name
      · have all : model.hinted.filter (keep ·.model.name) = model.hinted := by
          apply List.filter_eq_self.2
          intro h member
          rw [Model.eq_of_mem_hinted member]
          exact kept
        have stays : (model :: models).filter (keep ·.name) = model :: models.filter (keep ·.name) :=
          List.filter_cons_of_pos kept
        rw [stays, hintedFields_cons, all]
      · have none : model.hinted.filter (keep ·.model.name) = [] := by
          apply List.filter_eq_nil_iff.2
          intro h member
          rw [Model.eq_of_mem_hinted member]
          exact kept
        have goes : (model :: models).filter (keep ·.name) = models.filter (keep ·.name) :=
          List.filter_cons_of_neg kept
        rw [goes, none, List.nil_append]

namespace Hinted

variable {h : Hinted}

theorem relation?_filter_of_keep (kept : keep h.hint.model) :
    h.relation? (models.filter (keep ·.name)) = h.relation? models := by
  have found : (models.filter (keep ·.name)).find? (·.name == h.hint.model) =
      models.find? (·.name == h.hint.model) := by
    rw [List.find?_filter]
    apply congrArg (models.find? ·)
    funext model
    cases same : model.name == h.hint.model with
    | true => simp [eq_of_beq same, kept]
    | false => simp
  rw [relation?, relation?, found]

theorem relation?_filter_of_not_keep (gone : ¬keep h.hint.model) :
    h.relation? (models.filter (keep ·.name)) = none := by
  apply Option.map_eq_none_iff.2
  apply List.find?_eq_none.2
  intro model member same
  have kept : keep model.name := (List.mem_filter.1 member).2
  rw [eq_of_beq same] at kept
  exact gone kept

theorem keptBy_of_relation? {r : Relation} (made : h.relation? models = some r) :
    r.keptBy keep = (keep h.model.name && keep h.hint.model) := by
  have becomes := becomes_of_relation? made
  obtain ⟨_, _, _, -, -, -, target⟩ := becomes.target
  rw [Relation.keptBy, becomes.source, target]

theorem relation?_filter :
    (if keep h.model.name then h.relation? (models.filter (keep ·.name)) else none) =
      (h.relation? models).filter (·.keptBy keep) := by
  by_cases kept : keep h.hint.model
  · rw [relation?_filter_of_keep kept]
    cases made : h.relation? models with
    | none => simp
    | some r => simp [Option.filter_some, keptBy_of_relation? made, kept]
  · rw [relation?_filter_of_not_keep kept]
    cases made : h.relation? models with
    | none => simp
    | some r => simp [Option.filter_some, keptBy_of_relation? made, kept]

end Hinted

/-- Deriving relations commutes with keeping the models of some names. -/
theorem deriveRelations_filter (keep : String → Bool) (models : List Model) :
    deriveRelations (models.filter (keep ·.name)) =
      (deriveRelations models).filter (·.keptBy keep) := by
  rw [deriveRelations_eq, deriveRelations_eq, hintedFields_filter, List.filterMap_filter,
    List.filter_filterMap]
  simp only [Hinted.relation?_filter]

theorem Schema.relationsOf_eq (schema : Schema) (name : String) :
    schema.relationsOf name = schema.relations.filter fun r => !r.keptBy (· ≠ name) := by
  apply List.filter_congr
  intro r _
  simp [Relation.keptBy, Bool.beq_eq_decide_eq]

/-- Without the models of a name the relations are those that have it at neither end, unchanged and
in their order. Deriving the relations of a schema anew then drops the relations that the name takes
part in, and nothing else changes. -/
theorem deriveRelations_removed (models : List Model) (name : String) :
    deriveRelations (models.filter (·.name ≠ name)) =
      (deriveRelations models).filter (fun r => r.source.model ≠ name ∧ r.target.model ≠ name) ∧
    ∀ schema : Schema,
      let derived := schema.withDerivedRelations
      let smaller := (schema.withoutModel name).withDerivedRelations
      smaller = { derived.withoutModel name with
        relations := derived.relations.filter fun r =>
          r.source.model ≠ name ∧ r.target.model ≠ name } ∧
      (smaller.relations ++ derived.relationsOf name).Perm derived.relations := by
  have left (models : List Model) : deriveRelations (models.filter (·.name ≠ name)) =
      (deriveRelations models).filter
        (fun r => r.source.model ≠ name ∧ r.target.model ≠ name) := by
    rw [deriveRelations_filter (· ≠ name) models]
    apply List.filter_congr
    intro r _
    exact (Bool.decide_and _ _).symm
  refine ⟨left models, ?_⟩
  intro schema derived smaller
  constructor
  · simp only [smaller, derived, Schema.withoutModel, Schema.withDerivedRelations, left]
  · have kept : smaller.relations = derived.relations.filter (·.keptBy (· ≠ name)) :=
      deriveRelations_filter (· ≠ name) schema.models
    rw [kept, Schema.relationsOf_eq]
    exact List.filter_append_perm _ _

/-- A model that hints at itself and at its namesake goes with all its relations; of the others, those
that hint at it go. -/
example :
    let hinting (name model : String) : Field :=
      { Field.new name (.reference model) false with relation := some (.new model .manyToOne) }
    let models : List Model := [
      { name := "Post", fields := [hinting "author" "User", hinting "tag" "Tag"] },
      { name := "User", fields := [hinting "boss" "User", hinting "last" "Post"] },
      { name := "User", fields := [hinting "tag" "Tag"] },
      { name := "Tag", fields := [hinting "first" "Post"] }]
    (deriveRelations models).map (·.name) =
        ["PostAuthor", "PostTag", "UserBoss", "UserLast", "UserTag", "TagFirst"] ∧
      (deriveRelations (models.filter (·.name ≠ "User"))).map (·.name) =
        ["PostTag", "TagFirst"] := by
  decide

end Scaffold
