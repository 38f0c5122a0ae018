import Mathlib.Data.List.Basic
import Scaffold.Schema.Check

/-!
The names in the types of a schema's fields. The walk over a type lists each leaf that names an
enumeration or a model once, through arrays and inline objects of any depth, in the order of their
places.
-/

namespace Scaffold

/-! Items in places. The place of an item is the row of indices that leads to it. -/

section Places

variable {α : Type u} {β : Type v}

def under (index : Nat) (item : List Nat × β) : List Nat × β :=
  (index :: item.1, item.2)

/-- The items of each member of a list, below the index of that member. -/
def placed (items : α → List (List Nat × β)) (start : Nat) (as : List α) : List (List Nat × β) :=
  (as.zipIdx start).flatMap fun a => (items a.1).map (under a.2)

variable {items : α → List (List Nat × β)}

theorem mem_placed_iff {as : List α} {place : List Nat} {b : β} :
    (place, b) ∈ placed items 0 as ↔
      ∃ i a rest, as[i]? = some a ∧ place = i :: rest ∧ (rest, b) ∈ items a := by
  simp only [placed, List.mem_flatMap, List.mem_map, Prod.exists, under, Prod.mk.injEq,
    List.mem_zipIdx_iff_getElem?]
  constructor
  · rintro ⟨a, i, here, rest, _, member, rfl, rfl⟩
    exact ⟨i, a, rest, here, rfl, member⟩
  · rintro ⟨i, a, rest, here, rfl, member⟩
    exact ⟨a, i, here, rest, b, member, rfl, rfl⟩

theorem le_of_mem_placed {start : Nat} {as : List α} {item : List Nat × β}
    (member : item ∈ placed items start as) : ∃ i rest, start ≤ i ∧ item.1 = i :: rest := by
  obtain ⟨⟨a, i⟩, here, inside⟩ := List.mem_flatMap.1 member
  obtain ⟨below, -, rfl⟩ := List.mem_map.1 inside
  exact ⟨i, below.1, List.le_snd_of_mem_zipIdx here, rfl⟩

theorem pairwise_placed (start : Nat) {as : List α}
    (each : ∀ a ∈ as, (items a).Pairwise fun x y => x.1 < y.1) :
    (placed items start as).Pairwise fun x y => x.1 < y.1 := by
  induction as generalizing start with
  | nil => exact .nil
  | cons a as ih =>
      rw [placed, List.zipIdx_cons, List.flatMap_cons, List.pairwise_append]
      -- below one member the order is its own, and between members that of their indices
      refine ⟨?_, ih (start + 1) fun b later => each b (List.mem_cons_of_mem a later), ?_⟩
      · rw [List.pairwise_map]
        exact (each a List.mem_cons_self).imp fun below => List.cons_lt_cons_iff.2 (.inr ⟨rfl, below⟩)
      · intro x here y later
        obtain ⟨inner, -, rfl⟩ := List.mem_map.1 here
        obtain ⟨i, rest, above, equal⟩ := le_of_mem_placed later
        rw [equal]
        exact List.cons_lt_cons_iff.2 (.inl above)

theorem flatMap_zipIdx_fst (f : α → List γ) (start : Nat) (as : List α) :
    (as.zipIdx start).flatMap (fun a => f a.1) = as.flatMap f := by
  rw [← List.flatMap_map Prod.fst f, List.zipIdx_map_fst]

theorem map_filter_placed (keep : β → Bool) (f : β → γ) (start : Nat) (as : List α) :
    ((placed items start as).filter fun x => keep x.2).map (fun x => f x.2) =
      as.flatMap fun a => ((items a).filter fun x => keep x.2).map fun x => f x.2 := by
  rw [placed, List.filter_flatMap, List.map_flatMap]
  simp only [List.filter_map, List.map_map]
  exact flatMap_zipIdx_fst (fun a => ((items a).filter fun x => keep x.2).map fun x => f x.2) start as

end Places

/-! Types, through the fields of their inline objects. -/

@[elab_as_elim]
theorem FieldType.nested {motive : FieldType → Prop} (scalar : ∀ s, motive (.scalar s))
    (enumeration : ∀ name, motive (.enumeration name)) (reference : ∀ model, motive (.reference model))
    (array : ∀ items, motive items → motive (.array items))
    (object : ∀ fields, (∀ f ∈ fields, motive f.type) → motive (.object fields)) :
    ∀ type, motive type :=
  @FieldType.rec motive (fun f => motive f.type) (fun fields => ∀ f ∈ fields, motive f.type)
    scalar enumeration array object reference (fun _ _ _ _ _ _ _ _ _ _ _ _ _ ih => ih)
    (List.forall_mem_nil _) fun _ _ first rest => List.forall_mem_cons.2 ⟨first, rest⟩

/-- What a leaf of a type names. -/
inductive Mention.Target where
  | enumeration (name : String)
  | model (name : String)

/-- A name in the type of a field, with the path of the field: its own name behind those of the
fields around it and of their model. -/
structure Mention where
  path : String
  target : Mention.Target

/-- The warning about a name that nothing in the schema has. -/
def Mention.warning : Mention → String
  | ⟨path, .enumeration name⟩ => s!"field `{path}` uses unknown enum `{name}`"
  | ⟨path, .model name⟩ => s!"field `{path}` references unknown model `{name}`"

mutual

/-- The leaves of a type that name something, each with its place. -/
def FieldType.mentions (path : String) : FieldType → List (List Nat × Mention)
  | .enumeration name => [([], ⟨path, .enumeration name⟩)]
  | .reference model => [([], ⟨path, .model model⟩)]
  | .array items => items.mentions path
  | .object fields => Field.listMentions path 0 fields
  | .scalar _ => []

def Field.listMentions (owner : String) (index : Nat) : List Field → List (List Nat × Mention)
  | [] => []
  | ⟨name, type, _, _, _, _, _, _, _, _, _, _, _⟩ :: fields =>
      (type.mentions (owner ++ "." ++ name)).map (under index)
        ++ Field.listMentions owner (index + 1) fields

end

/-- A type names something at a place. Each inline object on the way down adds the index of a field
to the place, and the name of that field to the path. -/
inductive FieldType.Names : FieldType → String → List Nat → Mention → Prop
  | enumeration {path name : String} :
      Names (.enumeration name) path [] ⟨path, .enumeration name⟩
  | reference {path model : String} : Names (.reference model) path [] ⟨path, .model model⟩
  | array {items : FieldType} {path : String} {place : List Nat} {m : Mention} :
      Names items path place m → Names (.array items) path place m
  | object {fields : List Field} {field : Field} {path : String} {i : Nat} {place : List Nat}
      {m : Mention} :
      fields[i]? = some field → Names field.type (path ++ "." ++ field.name) place m →
      Names (.object fields) path (i :: place) m

theorem Field.listMentions_eq (owner : String) (index : Nat) (fields : List Field) :
    listMentions owner index fields =
      placed (fun f => f.type.mentions (owner ++ "." ++ f.name)) index fields := by
  induction fields generalizing index with
  | nil => rfl
  | cons f fields ih =>
      cases f
      rw [listMentions, ih, placed, placed, List.zipIdx_cons, List.flatMap_cons]

namespace FieldType

theorem mem_mentions_iff {type : FieldType} {path : String} {place : List Nat} {m : Mention} :
    (place, m) ∈ type.mentions path ↔ type.Names path place m := by
  induction type using nested generalizing path place with
  | scalar s => exact ⟨nofun, nofun⟩
  | enumeration name =>
      rw [mentions, List.mem_singleton, Prod.mk.injEq]
      constructor
      · rintro ⟨rfl, rfl⟩
        exact .enumeration
      · rintro ⟨⟩
        exact ⟨rfl, rfl⟩
  | reference model =>
      rw [mentions, List.mem_singleton, Prod.mk.injEq]
      constructor
      · rintro ⟨rfl, rfl⟩
        exact .reference
      · rintro ⟨⟩
        exact ⟨rfl, rfl⟩
  | array items ih =>
      rw [mentions, ih]
      exact ⟨.array, fun | .array inner => inner⟩
  | object fields ih =>
      rw [mentions, Field.listMentions_eq, mem_placed_iff]
      constructor
      · rintro ⟨i, field, rest, here, rfl, inner⟩
        exact .object here ((ih field (List.mem_of_getElem? here)).1 inner)
      · rintro ⟨⟩
        next field i rest here inner =>
          exact ⟨i, field, rest, here, rfl, (ih field (List.mem_of_getElem? here)).2 inner⟩

theorem pairwise_mentions (type : FieldType) (path : String) :
    (type.mentions path).Pairwise fun x y => x.1 < y.1 := by
  induction type using nested generalizing path with
  | scalar s => exact .nil
  | enumeration name => exact List.pairwise_singleton _ _
  | reference model => exact List.pairwise_singleton _ _
  | array items ih => exact ih path
  | object fields ih =>
      rw [mentions, Field.listMentions_eq]
      exact pairwise_placed 0 fun f member => ih f member _

end FieldType

namespace Schema

variable (schema : Schema)

/-- The names in the types of the fields of a schema. The first two indices of a place are those of
the model and of its field. -/
def mentions : List (List Nat × Mention) :=
  placed (fun model => Field.listMentions model.name 0 model.fields) 0 schema.models

/-- A field of one of the models names something in its type. -/
inductive Names : List Nat → Mention → Prop
  | intro {i j : Nat} {model : Model} {field : Field} {place : List Nat} {m : Mention} :
      schema.models[i]? = some model → model.fields[j]? = some field →
      field.type.Names (model.name ++ "." ++ field.name) place m → Names (i :: j :: place) m

def Declares : Mention.Target → Prop
  | .enumeration name => ∃ enum ∈ schema.enums, enum.name = name
  | .model name => ∃ model ∈ schema.models, model.name = name

instance : DecidablePred schema.Declares
  | .enumeration name => inferInstanceAs (Decidable (∃ enum ∈ schema.enums, enum.name = name))
  | .model name => inferInstanceAs (Decidable (∃ model ∈ schema.models, model.name = name))

theorem mem_mentions_iff {place : List Nat} {m : Mention} :
    (place, m) ∈ schema.mentions ↔ schema.Names place m := by
  simp only [mentions, Field.listMentions_eq, mem_placed_iff]
  constructor
  · rintro ⟨i, model, _, here, rfl, j, field, place, there, rfl, inner⟩
    exact .intro here there (FieldType.mem_mentions_iff.1 inner)
  · rintro ⟨here, there, inner⟩
    exact ⟨_, _, _, here, rfl, _, _, _, there, rfl, FieldType.mem_mentions_iff.2 inner⟩

theorem pairwise_mentions : schema.mentions.Pairwise fun x y => x.1 < y.1 := by
  refine pairwise_placed 0 fun model _ => ?_
  rw [Field.listMentions_eq]
  exact pairwise_placed 0 fun field _ => field.type.pairwise_mentions _

/-! The warnings about types are those about names that nothing has. -/

/-- The warnings about the names in a list that the schema does not have. -/
def unknown (mentions : List (List Nat × Mention)) : List String :=
  (mentions.filter fun m => ¬schema.Declares m.2.target).map fun m => m.2.warning

theorem isNone_enum? (name : String) :
    (schema.enum? name).isNone ↔ ¬schema.Declares (.enumeration name) := by
  simp [enum?, Declares]

theorem isNone_model? (name : String) :
    (schema.model? name).isNone ↔ ¬schema.Declares (.model name) := by
  simp [model?, Declares]

theorem fieldWarnings_eq (owner : String) (fields : List Field) :
    schema.fieldWarnings owner fields =
      fields.flatMap fun f => schema.typeWarnings (owner ++ "." ++ f.name) f.type := by
  induction fields with
  | nil => rfl
  | cons f fields ih =>
      cases f
      rw [fieldWarnings, ih, List.flatMap_cons]

theorem unknown_placed (items : α → List (List Nat × Mention)) (start : Nat) (as : List α) :
    schema.unknown (placed items start as) = as.flatMap fun a => schema.unknown (items a) :=
  map_filter_placed (fun m : Mention => ¬schema.Declares m.target) Mention.warning start as

theorem unknown_singleton (m : Mention) (place : List Nat) :
    schema.unknown [(place, m)] = if schema.Declares m.target then [] else [m.warning] := by
  by_cases known : schema.Declares m.target <;> simp [unknown, known]

theorem typeWarnings_eq (path : String) (type : FieldType) :
    schema.typeWarnings path type = schema.unknown (type.mentions path) := by
  induction type using FieldType.nested generalizing path with
  | scalar s => rfl
  | enumeration name =>
      rw [FieldType.mentions, unknown_singleton, typeWarnings]
      simp only [isNone_enum?, ite_not]
      rfl
  | reference model =>
      rw [FieldType.mentions, unknown_singleton, typeWarnings]
      simp only [isNone_model?, ite_not]
      rfl
  | array items ih => exact ih path
  | object fields ih =>
      rw [typeWarnings, fieldWarnings_eq, FieldType.mentions, Field.listMentions_eq, unknown_placed]
      exact List.flatMap_congr fun f member => ih f member _

theorem unknown_mentions :
    schema.unknown schema.mentions =
      schema.models.flatMap fun model => model.fields.flatMap fun field =>
        schema.typeWarnings (model.name ++ "." ++ field.name) field.type := by
  simp only [mentions, Field.listMentions_eq, unknown_placed, typeWarnings_eq]

end Schema

end Scaffold
