import Scaffold.Proofs.Schema.Bounds
import Scaffold.Schema.Document

/-!
Schemas in documents: a schema of the current version comes back from its tree, and so does what was
decoded from any tree at all. A schema of another version is refused.
-/

namespace Scaffold.Schema

theorem ofTree_eq_ok_iff {j : Json} {s : Schema} :
    ofTree j = .ok s ↔ ofJson? j = some s ∧ s.version = currentVersion := by
  unfold ofTree
  cases read : ofJson? j with
  | none => simp
  | some found =>
      by_cases current : found.version = currentVersion
      · simp only [if_pos current, Except.ok.injEq, Option.some.injEq]
        exact ⟨fun same => ⟨same, same ▸ current⟩, And.left⟩
      · simp only [if_neg current, reduceCtorEq, Option.some.injEq, false_iff]
        rintro ⟨rfl, same⟩
        exact current same

theorem ofTree_toJson {s : Schema} (current : s.version = currentVersion) (finite : s.Finite)
    (time : s.TimeReads) : ofTree s.toJson = .ok s :=
  ofTree_eq_ok_iff.2 ⟨ofJson?_toJson finite time, current⟩

theorem ofTree_toJson_of_ofTree {j : Json} {s : Schema} (fits : j.numbersFit)
    (read : ofTree j = .ok s) (time : s.TimeReads) : ofTree s.toJson = .ok s := by
  obtain ⟨decoded, current⟩ := ofTree_eq_ok_iff.1 read
  exact ofTree_toJson current (finite_of_ofJson? fits decoded) time

theorem ofTree_of_version_ne {j : Json} {s : Schema} (decoded : ofJson? j = some s)
    (other : s.version ≠ currentVersion) :
    ofTree j = .error (.unsupportedVersion s.version) := by
  rw [ofTree, decoded]
  exact if_neg other

theorem ofDocument_of_read? {text : String} {j : Json} (reads : Json.read? text = some j) :
    ofDocument text = ofTree j := by
  rw [ofDocument, reads]

/-- A schema of the current version whose bounds are numbers is what its tree decodes to, and its
document too if its text reads back. So decoding an encoded schema changes no schema that was decoded
from a tree of proper numbers, and encoding it once more gives the same tree. What decodes with another
version is refused for that version. -/
theorem decode_encode :
    (∀ s : Schema, s.version = currentVersion → s.Finite → s.TimeReads →
      ofTree s.toJson = .ok s ∧
        (Json.read? s.document = some s.toJson → ofDocument s.document = .ok s)) ∧
    (∀ (j : Json) (s : Schema), j.numbersFit → ofTree j = .ok s → s.TimeReads →
      ofTree s.toJson = .ok s ∧ (ofTree s.toJson).map toJson = .ok s.toJson ∧
        (Json.read? s.document = some s.toJson → ofDocument s.document = .ok s)) ∧
    ∀ (j : Json) (s : Schema), ofJson? j = some s → s.version ≠ currentVersion →
      ofTree j = .error (.unsupportedVersion s.version) := by
  refine ⟨fun s current finite time => ?_, fun j s fits read time => ?_,
    fun _ _ => ofTree_of_version_ne⟩
  · have back := ofTree_toJson current finite time
    exact ⟨back, fun reads => (ofDocument_of_read? reads).trans back⟩
  · have back := ofTree_toJson_of_ofTree fits read time
    exact ⟨back, congrArg (·.map toJson) back, fun reads => (ofDocument_of_read? reads).trans back⟩

/-- A schema with next to nothing in it. -/
def blank : Schema where
  version := "1.0"
  metadata := {}
  models := []
  enums := []
  relations := []

/-- A schema with a bound on a field of an inline object, inside an array. -/
def orders : Schema where
  version := "1.0"
  metadata := { name := "orders", source := "manual", generatedAt := some ⟨0, 0⟩ }
  models := [{
    name := "Order"
    fields := [
      { Field.new "lines" (.array (.object [
          { Field.new "amount" (.scalar .number) true with
            default := some (.literal ⟨.integer 1, trivial⟩)
            validation := some { min := some 0.5, positive := true } }])) true with
        relation := some { model := "Line", cardinality := .oneToMany, onDelete := some .cascade } }]
    constraints := [⟨none, .unique, ["lines"], none⟩]
    auth := some {}
    annotations := Dict.ofList [("note", ⟨.object [("text", .string "first")],
      ⟨List.pairwise_singleton _ _, trivial, trivial⟩⟩)] }]
  enums := [⟨"State", [⟨"OPEN", some "open"⟩], none⟩]
  relations := [⟨"lines", .oneToMany, ⟨"Order", "id"⟩, ⟨"Line", "order"⟩, none, none, none⟩]

/-- A tree that no schema is encoded as: defaults are left out, members stand in another order and one
of them is no field, a bound is an integer, and a relation is an array. -/
def looseTree (version : String) : Json :=
  .object [("comment", .null),
    ("relations", .array [.array [.string "lines", .string "one-to-many",
      .array [.string "Order", .string "id"],
      .object [("field", .string "order"), ("model", .string "Line")]]]),
    ("version", .string version),
    ("metadata", .object [("name", .string "orders"), ("source", .string "manual"),
      ("generatedAt", .string "1970-01-01T01:00:00+01:00")]),
    ("models", .array [.object [("name", .string "Order"), ("fields", .array [.object [
      ("name", .string "amount"), ("required", .bool true),
      ("type", .array [.string "scalar", .string "number"]),
      ("validation", .object [("min", .integer 1)]),
      ("default", .object [("value", .integer 1), ("kind", .string "literal")])]])]])]

theorem finite_orders : orders.Finite := by
  have bounds : ValidationRules.Finite { min := some 0.5, positive := true } := by
    constructor
    · rintro _ ⟨⟩
      decide +kernel
    · rintro _ ⟨⟩
  simpa [Finite, Model.Finite, orders, Field.Finite, Field.new, FieldType.Finite,
    Field.ListFinite] using bounds

theorem read?_document_blank : Json.read? blank.document = some blank.toJson := by cbv

theorem decode_encode_orders :
    ofTree orders.toJson = .ok orders ∧ ofDocument blank.document = .ok blank ∧
      (∃ s, ofTree (looseTree "1.0") = .ok s ∧ ofTree s.toJson = .ok s ∧
        (ofTree s.toJson).map toJson = .ok s.toJson) ∧
      ofTree (looseTree "2.0") = .error (.unsupportedVersion "2.0") := by
  obtain ⟨encoded, decoded, refused⟩ := decode_encode
  have time : orders.TimeReads := by
    rintro _ ⟨⟩
    decide +kernel
  refine ⟨(encoded orders rfl finite_orders time).1, ?_, ?_, ?_⟩
  · have finite : blank.Finite := fun m member => by cases member
    have time : blank.TimeReads := fun t written => by cases written
    exact (encoded blank rfl finite time).2 read?_document_blank
  · have found : (ofTree (looseTree "1.0")).toOption.map (·.metadata.generatedAt) =
        some (some ⟨0, 0⟩) := by decide +kernel
    obtain ⟨s, read, generated⟩ := Option.map_eq_some_iff.1 found
    have read : ofTree (looseTree "1.0") = .ok s := by
      cases tree : ofTree (looseTree "1.0") with
      | error e => simp [tree, Except.toOption] at read
      | ok s' => simpa [tree, Except.toOption] using read
    have time : s.TimeReads := by
      rw [TimeReads, generated]
      rintro _ ⟨⟩
      decide +kernel
    have back := decoded _ s (by decide +kernel) read time
    exact ⟨s, read, back.1, back.2.1⟩
  · have found : (ofJson? (looseTree "2.0")).map (·.version) = some "2.0" := by decide +kernel
    obtain ⟨s, read, version⟩ := Option.map_eq_some_iff.1 found
    have other : s.version ≠ currentVersion := by
      rw [version]
      decide
    rw [refused _ s read other, version]

end Scaffold.Schema
