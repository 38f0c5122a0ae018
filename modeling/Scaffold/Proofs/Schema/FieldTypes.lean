import Scaffold.Proofs.Schema.Records

/-!
Types and fields read back, through arrays and inline objects.
-/

namespace Scaffold

open Json (Slots present exists_record?_present)

mutual

/-- Whether the bounds in a type are numbers, all the way down. -/
def FieldType.Finite : FieldType → Prop
  | .array items => items.Finite
  | .object fields => Field.ListFinite fields
  | .scalar _ | .enumeration _ | .reference _ => True

def Field.ListFinite : List Field → Prop
  | [] => True
  | ⟨_, type, _, _, _, _, validation, _, _, _, _, _, _⟩ :: fields =>
      (type.Finite ∧ ∀ rules, validation = some rules → rules.Finite) ∧ Field.ListFinite fields

end

/-- Whether the bounds in a field are numbers, those in its type included. -/
def Field.Finite (f : Field) : Prop :=
  f.type.Finite ∧ ∀ rules, f.validation = some rules → rules.Finite

theorem Field.listFinite_iff {fields : List Field} :
    Field.ListFinite fields ↔ ∀ f ∈ fields, f.Finite := by
  induction fields with
  | nil => simp [Field.ListFinite]
  | cons f fields ih =>
      cases f
      simp only [Field.ListFinite, ih, List.forall_mem_cons, Field.Finite]

namespace Field

def slots (f : Field) : Slots :=
  [("name", some (.string f.name)), ("type", some f.type.toJson),
    ("required", some (.bool f.required)), ("unique", some (.bool f.unique)),
    ("primaryKey", some (.bool f.primaryKey)), ("default", f.default.map FieldDefault.toJson),
    ("validation", f.validation.map ValidationRules.toJson),
    ("relation", f.relation.map RelationHint.toJson), ("columnName", f.columnName.map .string),
    ("hidden", some (.bool f.hidden)), ("readOnly", some (.bool f.readOnly)),
    ("writeOnly", some (.bool f.writeOnly)), ("description", f.description.map .string)]

theorem toJson_eq (f : Field) : f.toJson = .object (present f.slots) := by
  cases f
  simp [toJson, listToJson, slots]

theorem listToJson_eq (fields : List Field) : listToJson fields = fields.map toJson := by
  induction fields with
  | nil => rw [listToJson, List.map_nil]
  | cons f fields ih =>
      cases f
      rw [List.map_cons, ← ih]
      simp only [toJson, listToJson, List.headD_cons]

end Field

/-! A type is read only where all of its tree can be read. -/

namespace Json

variable {encode : α → Json}

@[simp] theorem readableMembers_append (members others : List (String × Json)) :
    readableMembers (members ++ others) =
      (readableMembers members && readableMembers others) := by
  induction members with
  | nil => rfl
  | cons m members ih =>
      rw [List.cons_append, readableMembers, readableMembers, ih, Bool.and_assoc]

@[simp] theorem readableMembers_optionalMember (all : ∀ a, (encode a).readable) (key : String)
    (o : Option α) : readableMembers (optionalMember key encode o) := by
  cases o with
  | none => rfl
  | some a => simp [optionalMember, readableMembers, all a]

@[simp] theorem readable_string (s : String) : (string s).readable := rfl

@[simp] theorem readableMembers_optionalString (key : String) (o : Option String) :
    readableMembers (optionalMember key string o) :=
  readableMembers_optionalMember readable_string key o

@[simp] theorem readable_ofNat (n : Nat) : (ofNat n).readable := by
  simp [ofNat, readable]

@[simp] theorem readable_ofNamed [Named α] (a : α) : (ofNamed a).readable := by
  simp [ofNamed]

@[simp] theorem readable_ofFloat (x : Float) : (ofFloat x).readable := by
  unfold ofFloat
  split <;> rfl

end Json

@[simp] theorem FieldDefault.readable_toJson (d : FieldDefault) : d.toJson.readable := by
  cases d with
  | literal value =>
      simp [toJson, Json.readable, Json.readableMembers, Json.readable_of_normal _ value.normal]
  | function f => rfl
  | expression text => rfl

@[simp] theorem ValidationRules.readable_toJson (r : ValidationRules) : r.toJson.readable := by
  simp [toJson, Json.readable, Json.readableMembers]

@[simp] theorem JoinTable.readable_toJson (t : JoinTable) : t.toJson.readable := by
  simp [toJson, Json.readable, Json.readableMembers]

@[simp] theorem RelationHint.readable_toJson (h : RelationHint) : h.toJson.readable := by
  simp [toJson, Json.readable, Json.readableMembers]

mutual

theorem FieldType.readable_toJson : (type : FieldType) → type.toJson.readable
  | .scalar _ | .enumeration _ | .reference _ => rfl
  | .array items => by
      simp [FieldType.toJson, Json.readable, Json.readableMembers, items.readable_toJson]
  | .object fields => by
      simp [FieldType.toJson, Json.readable, Json.readableMembers, Field.readable_listToJson fields]

theorem Field.readable_listToJson :
    (fields : List Field) → Json.readableItems (Field.listToJson fields)
  | [] => rfl
  | ⟨_, type, _, _, _, _, _, _, _, _, _, _, _⟩ :: fields => by
      simp [Field.listToJson, Json.readableItems, Json.readable, Json.readableMembers,
        type.readable_toJson, Field.readable_listToJson fields]

end

/-! The depth of a tree is fuel enough. -/

theorem Json.depth_le_of_mem {m : String × Json} {members : List (String × Json)}
    (member : m ∈ members) : m.2.depth ≤ Json.depthMembers members := by
  induction members with
  | nil => cases member
  | cons first members ih =>
      rw [depthMembers]
      rcases List.mem_cons.1 member with rfl | later
      · exact Nat.le_max_left _ _
      · exact Nat.le_trans (ih later) (Nat.le_max_right _ _)

theorem Field.depth_type_lt (f : Field) : f.type.toJson.depth < f.toJson.depth := by
  have member : ("type", f.type.toJson) ∈ present f.slots := by simp [present, slots]
  rw [toJson_eq, Json.depth]
  exact Nat.lt_succ_of_le (Json.depth_le_of_mem member)

theorem Field.depthItems_listToJson (f : Field) (fields : List Field) :
    Json.depthItems (Field.listToJson (f :: fields)) =
      max f.toJson.depth (Json.depthItems (Field.listToJson fields)) := by
  rw [listToJson_eq, listToJson_eq, List.map_cons, Json.depthItems]

theorem Field.decode?_of_type {f : Field} {fuel : Nat} {held : Bool} (finite : f.Finite)
    (back : FieldType.decode? fuel held f.type.toJson = some f.type) :
    Field.decode? (fuel + 1) held f.toJson = some f := by
  have distinct : (f.slots.map (·.1)).Nodup := by simp [slots]
  obtain ⟨ms, record, look⟩ := exists_record?_present distinct _
  rw [toJson_eq, Field.decode?, record]
  dsimp only [Option.bind_eq_bind, Option.bind_some]
  simp [look, slots, lookup_cons_eq, back, f.type.readable_toJson,
    ValidationRules.readOptional_toJson finite.2]
  cases f
  rfl

mutual

theorem FieldType.decode?_toJson :
    (type : FieldType) → type.Finite → (held : Bool) → (fuel : Nat) → type.toJson.depth ≤ fuel →
      FieldType.decode? fuel held type.toJson = some type
  | .scalar s, _, held, fuel + 1, _ => by
      change (Json.heldChoice? true (Json.ofNamed s)).bind _ = _
      rw [Json.heldChoice?_ofNamed]
      rfl
  | .enumeration name, _, held, fuel + 1, _ => rfl
  | .array items, finite, held, fuel + 1, deep => by
      have below : items.toJson.depth ≤ fuel := by
        simp only [FieldType.toJson, Json.depth, Json.depthMembers] at deep
        omega
      change (FieldType.decode? fuel true items.toJson).bind _ = _
      rw [items.decode?_toJson finite true fuel below]
      rfl
  | .object fields, finite, held, fuel + 1, deep => by
      have below : Json.depthItems (Field.listToJson fields) ≤ fuel := by
        simp only [FieldType.toJson, Json.depth, Json.depthMembers] at deep
        omega
      change ((Field.listToJson fields).mapM (Field.decode? fuel true)).bind _ = _
      rw [Field.mapM_decode? fields finite true fuel below]
      rfl
  | .reference model, _, held, fuel + 1, _ => rfl

theorem Field.decode?_toJson :
    (f : Field) → f.Finite → (held : Bool) → (fuel : Nat) → f.toJson.depth ≤ fuel →
      Field.decode? fuel held f.toJson = some f
  | ⟨_, type, _, _, _, _, _, _, _, _, _, _, _⟩, finite, held, fuel + 1, deep => by
      have below := Nat.le_of_lt_succ (Nat.lt_of_lt_of_le (Field.depth_type_lt _) deep)
      exact Field.decode?_of_type finite (type.decode?_toJson finite.1 held fuel below)

theorem Field.mapM_decode? :
    (fields : List Field) → Field.ListFinite fields → (held : Bool) → (fuel : Nat) →
      Json.depthItems (Field.listToJson fields) ≤ fuel →
      (Field.listToJson fields).mapM (Field.decode? fuel held) = some fields
  | [], _, _, _, _ => rfl
  | f :: fields, finite, held, fuel, deep => by
      rw [Field.depthItems_listToJson, Nat.max_le] at deep
      rw [Field.listFinite_iff, List.forall_mem_cons, ← Field.listFinite_iff] at finite
      have rest := Field.mapM_decode? fields finite.2 held fuel deep.2
      rw [Field.listToJson_eq] at rest ⊢
      rw [List.map_cons, List.mapM_cons, f.decode?_toJson finite.1 held fuel deep.1, rest]
      rfl

end

theorem Field.ofJson?_toJson {f : Field} (finite : f.Finite) : ofJson? f.toJson = some f :=
  f.decode?_toJson finite false f.toJson.depth (Nat.le_refl _)

end Scaffold
