import Scaffold.Proofs.Json.Magnitude
import Scaffold.Proofs.Json.Records

/-!
Trees whose numbers are those that a JSON value can hold: integers of 64 bits and finite doubles. What
is read as a double from such a tree is finite.
-/

namespace Scaffold.Json

mutual

/-- Whether every number is an integer of 64 bits, with or without a sign, or a finite double. -/
def numbersFit : Json → Bool
  | .integer n => -0x8000000000000000 ≤ n && n ≤ 0xffffffffffffffff
  | .float x => x.isFinite
  | .array items => numbersFitItems items
  | .object members => numbersFitMembers members
  | .null | .bool _ | .string _ | .unreadable => true

def numbersFitItems : List Json → Bool
  | [] => true
  | item :: items => numbersFit item && numbersFitItems items

def numbersFitMembers : List (String × Json) → Bool
  | [] => true
  | (_, value) :: members => numbersFit value && numbersFitMembers members

end

theorem numbersFit_array {items : List Json} :
    (array items).numbersFit ↔ ∀ j ∈ items, j.numbersFit := by
  rw [numbersFit]
  induction items with
  | nil => simp [numbersFitItems]
  | cons item items ih => simp [numbersFitItems, ih]

theorem numbersFit_object {members : List (String × Json)} :
    (object members).numbersFit ↔ ∀ m ∈ members, m.2.numbersFit := by
  rw [numbersFit]
  induction members with
  | nil => simp [numbersFitMembers]
  | cons m members ih => simp [numbersFitMembers, ih]

theorem isFinite_of_float? {j : Json} {x : Float} (fits : j.numbersFit)
    (read : j.float? = some x) : x.isFinite := by
  cases j with
  | float y =>
      cases read
      exact fits
  | integer n =>
      cases read
      simp only [numbersFit, Bool.and_eq_true, decide_eq_true_eq] at fits
      exact Magnitude.isFinite_ofInt (by omega)
  | null | bool | string | array | object | unreadable => cases read

/-! The members of a record are parts of its tree. -/

namespace Members

def NumbersFit (members : Members) : Prop :=
  ∀ m ∈ members, m.2.numbersFit

end Members

theorem numbersFit_of_record? {keys : List String} {j : Json} {members : Members}
    (fits : j.numbersFit) (record : j.record? keys = some members) : members.NumbersFit := by
  cases j with
  | object found =>
      simp only [record?, Option.ite_none_right_eq_some, Option.some.injEq] at record
      obtain ⟨-, rfl⟩ := record
      exact numbersFit_object.1 fits
  | array items =>
      simp only [record?, Option.ite_none_right_eq_some, Option.some.injEq] at record
      obtain ⟨-, rfl⟩ := record
      intro m member
      exact numbersFit_array.1 fits _ (List.of_mem_zip member).2
  | null | bool | integer | float | string | unreadable => cases record

namespace Members

variable {members : Members} {key : String} {decode : Json → Option α}

theorem NumbersFit.lookup (fits : members.NumbersFit) {j : Json}
    (found : members.lookup key = some j) : j.numbersFit := by
  obtain ⟨before, after, rfl, -⟩ := List.lookup_eq_some_iff.1 found
  exact fits (key, j) (by simp)

theorem NumbersFit.required (fits : members.NumbersFit) {a : α}
    (read : Fields.required members key decode = some a) :
    ∃ j, j.numbersFit ∧ decode j = some a := by
  obtain ⟨j, found, decoded⟩ := Option.bind_eq_some_iff.1 read
  exact ⟨j, fits.lookup found, decoded⟩

theorem NumbersFit.optional (fits : members.NumbersFit) {a : α}
    (read : members.optional key decode = some (some a)) :
    ∃ j, j.numbersFit ∧ decode j = some a := by
  unfold Members.optional at read
  cases found : members.lookup key with
  | none => simp [found] at read
  | some j =>
      refine ⟨j, fits.lookup found, ?_⟩
      cases j <;> simp_all

end Members

theorem numbersFit_of_list? {decode : Json → Option α} {j : Json} {decoded : List α}
    (fits : j.numbersFit) (read : list? decode j = some decoded) :
    ∀ a ∈ decoded, ∃ k, k.numbersFit ∧ decode k = some a := by
  intro a member
  cases j with
  | array items =>
      have same := mapM_eq_some_iff.1 read
      have written : some a ∈ items.map decode := same ▸ List.mem_map_of_mem member
      obtain ⟨k, part, decoded⟩ := List.mem_map.1 written
      exact ⟨k, numbersFit_array.1 fits k part, decoded⟩
  | null | bool | integer | float | string | object | unreadable => cases read

end Scaffold.Json
