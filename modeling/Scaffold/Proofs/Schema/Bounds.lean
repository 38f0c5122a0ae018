import Scaffold.Proofs.Json.Numbers
import Scaffold.Proofs.Schema.Models

/-!
The bounds of a schema that was decoded are numbers: those of the tree are, and all of them come from
it.
-/

namespace Scaffold

open Json (numbersFit_array numbersFit_object numbersFit_of_record? numbersFit_of_list?
  isFinite_of_float?)

theorem ValidationRules.finite_of_ofJson? {j : Json} {r : ValidationRules} (fits : j.numbersFit)
    (read : ofJson? j = some r) : r.Finite := by
  dsimp only [ofJson?, Option.bind_eq_bind, Option.pure_def] at read
  obtain ⟨members, record, read⟩ := Option.bind_eq_some_iff.1 read
  obtain ⟨min, readMin, read⟩ := Option.bind_eq_some_iff.1 read
  obtain ⟨max, readMax, read⟩ := Option.bind_eq_some_iff.1 read
  repeat
    rw [Option.bind_eq_some_iff] at read
    obtain ⟨_, -, read⟩ := read
  cases read
  have fits := numbersFit_of_record? fits record
  constructor
  · rintro x rfl
    obtain ⟨k, part, number⟩ := fits.optional readMin
    exact isFinite_of_float? part number
  · rintro x rfl
    obtain ⟨k, part, number⟩ := fits.optional readMax
    exact isFinite_of_float? part number

theorem FieldType.numbersFit_of_tagged? {held : Bool} {j rest : Json} {tag : String}
    (fits : j.numbersFit) (split : tagged? held j = some (tag, rest)) : rest.numbersFit := by
  unfold tagged? at split
  split at split
  · rename_i members
    split at split
    · obtain ⟨_, -, made⟩ := Option.map_eq_some_iff.1 split
      cases made
      exact numbersFit_object.2 fun m member =>
        numbersFit_object.1 fits m (List.mem_of_mem_filter member)
    · cases split
  · obtain ⟨_, -, made⟩ := Option.map_eq_some_iff.1 split
    cases made
    exact numbersFit_array.2 fun k member =>
      numbersFit_array.1 fits k (List.mem_cons_of_mem _ member)
  · cases split

section Nested

variable {fuel : Nat}
  (types : ∀ held j type, j.numbersFit → FieldType.decode? fuel held j = some type → type.Finite)
  (fields : ∀ held j f, j.numbersFit → Field.decode? fuel held j = some f → f.Finite)

include types fields in
theorem FieldType.finite_of_decode?_succ {held : Bool} {j : Json} {type : FieldType}
    (fits : j.numbersFit) (read : decode? (fuel + 1) held j = some type) : type.Finite := by
  simp only [decode?, Option.bind_eq_bind, Option.bind_eq_some_iff] at read
  obtain ⟨⟨tag, rest⟩, split, read⟩ := read
  have fits := numbersFit_of_tagged? fits split
  dsimp only at read
  split at read
  any_goals simp only [Option.bind_eq_some_iff] at read
  · obtain ⟨_, -, _, -, made⟩ := read
    cases made
    trivial
  · obtain ⟨_, -, _, -, made⟩ := read
    cases made
    trivial
  · obtain ⟨members, record, items, readItems, made⟩ := read
    cases made
    obtain ⟨k, part, decoded⟩ := (numbersFit_of_record? fits record).required readItems
    exact types true k items part decoded
  · obtain ⟨members, record, inner, readFields, made⟩ := read
    cases made
    obtain ⟨k, part, decoded⟩ := (numbersFit_of_record? fits record).required readFields
    refine Field.listFinite_iff.2 fun f member => ?_
    obtain ⟨k, part, decoded⟩ := numbersFit_of_list? part decoded f member
    exact fields true k f part decoded
  · obtain ⟨_, -, _, -, made⟩ := read
    cases made
    trivial
  · cases read

include types in
theorem Field.finite_of_decode?_succ {held : Bool} {j : Json} {f : Field}
    (fits : j.numbersFit) (read : decode? (fuel + 1) held j = some f) : f.Finite := by
  rw [decode?] at read
  dsimp only [Option.bind_eq_bind, Option.pure_def] at read
  obtain ⟨members, record, read⟩ := Option.bind_eq_some_iff.1 read
  obtain ⟨_, -, read⟩ := Option.bind_eq_some_iff.1 read
  obtain ⟨type, readType, read⟩ := Option.bind_eq_some_iff.1 read
  -- four fields stand between the type and the validation rules
  iterate 4 obtain ⟨_, -, read⟩ := Option.bind_eq_some_iff.1 read
  obtain ⟨validation, readValidation, read⟩ := Option.bind_eq_some_iff.1 read
  repeat
    rw [Option.bind_eq_some_iff] at read
    obtain ⟨_, -, read⟩ := read
  cases read
  have fits := numbersFit_of_record? fits record
  constructor
  · obtain ⟨k, part, decoded⟩ := fits.required readType
    rw [Option.ite_none_right_eq_some] at decoded
    exact types held k type part decoded.2
  · rintro rules rfl
    obtain ⟨k, part, decoded⟩ := fits.optional readValidation
    exact ValidationRules.finite_of_ofJson? part decoded

end Nested

/-- The induction is on the fuel: the types inside a type and the type of a field are read with less. -/
theorem finite_of_decode? (fuel : Nat) :
    (∀ held j type, j.numbersFit → FieldType.decode? fuel held j = some type → type.Finite) ∧
      ∀ held j f, j.numbersFit → Field.decode? fuel held j = some f → f.Finite := by
  induction fuel with
  | zero => exact ⟨nofun, nofun⟩
  | succ fuel ih =>
      obtain ⟨types, fields⟩ := ih
      exact ⟨fun _ _ _ fits read => FieldType.finite_of_decode?_succ types fields fits read,
        fun _ _ _ fits read => Field.finite_of_decode?_succ types fits read⟩

theorem Field.finite_of_ofJson? {j : Json} {f : Field} (fits : j.numbersFit)
    (read : ofJson? j = some f) : f.Finite :=
  (finite_of_decode? j.depth).2 false j f fits read

theorem Model.finite_of_ofJson? {j : Json} {m : Model} (fits : j.numbersFit)
    (read : ofJson? j = some m) : m.Finite := by
  dsimp only [ofJson?, Option.bind_eq_bind, Option.pure_def] at read
  obtain ⟨members, record, read⟩ := Option.bind_eq_some_iff.1 read
  obtain ⟨_, -, read⟩ := Option.bind_eq_some_iff.1 read
  obtain ⟨fields, readFields, read⟩ := Option.bind_eq_some_iff.1 read
  repeat
    rw [Option.bind_eq_some_iff] at read
    obtain ⟨_, -, read⟩ := read
  cases read
  obtain ⟨k, part, decoded⟩ := (numbersFit_of_record? fits record).required readFields
  intro f member
  obtain ⟨k, part, decoded⟩ := numbersFit_of_list? part decoded f member
  exact Field.finite_of_ofJson? part decoded

theorem Schema.finite_of_ofJson? {j : Json} {s : Schema} (fits : j.numbersFit)
    (read : ofJson? j = some s) : s.Finite := by
  dsimp only [ofJson?, Option.bind_eq_bind, Option.pure_def] at read
  obtain ⟨members, record, read⟩ := Option.bind_eq_some_iff.1 read
  iterate 2 obtain ⟨_, -, read⟩ := Option.bind_eq_some_iff.1 read
  obtain ⟨models, readModels, read⟩ := Option.bind_eq_some_iff.1 read
  repeat
    rw [Option.bind_eq_some_iff] at read
    obtain ⟨_, -, read⟩ := read
  cases read
  obtain ⟨k, part, decoded⟩ := (numbersFit_of_record? fits record).required readModels
  intro m member
  obtain ⟨k, part, decoded⟩ := numbersFit_of_list? part decoded m member
  exact Model.finite_of_ofJson? part decoded

end Scaffold
