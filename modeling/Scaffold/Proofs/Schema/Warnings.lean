import Mathlib.Data.List.Nodup
import Scaffold.Proofs.Schema.Mentions
import Scaffold.Schema.Relations

/-!
The warnings of a check by what they are about. A warning says so in its first words, and those
about one thing stand in the order of what they are about.
-/

namespace Scaffold.Schema

/-- What a warning is about: a name that an earlier model has, a missing primary key, a name in the
type of a field, the hint of a field, an enumeration without values. -/
inductive Subject where
  | duplicate | primaryKey | field | relation | enumeration
  deriving DecidableEq

/-- How the warnings about a subject begin. -/
def Subject.opening : Subject → String
  | .duplicate => "duplicate model name `"
  | .primaryKey => "model `"
  | .field => "field `"
  | .relation => "relation `"
  | .enumeration => "enum `"

def opensWith (opening text : String) : Bool :=
  opening.toList.isPrefixOf text.toList

/-- The warnings of a check that are about a subject, as far as their first words tell. -/
def warningsOn (schema : Schema) (subject : Subject) : List String :=
  schema.check.warnings.filter (opensWith subject.opening)

theorem opensWith_iff {opening text : String} :
    opensWith opening text ↔ opening.toList <+: text.toList :=
  List.isPrefixOf_iff_prefix

theorem opensWith_append (opening rest : String) : opensWith opening (opening ++ rest) := by
  rw [opensWith_iff, String.toList_append]
  exact List.prefix_append _ _

theorem opensWith_append_of {opening text : String} (opens : opensWith opening text)
    (rest : String) : opensWith opening (text ++ rest) := by
  rw [opensWith_iff] at opens ⊢
  rw [String.toList_append]
  exact opens.trans (List.prefix_append _ _)

theorem Subject.eq_of_opensWith {s t : Subject} {text : String} (left : opensWith s.opening text)
    (right : opensWith t.opening text) : s = t := by
  have either := List.prefix_or_prefix_of_prefix (opensWith_iff.1 left) (opensWith_iff.1 right)
  revert either
  cases s <;> cases t <;> decide

/-- All texts are about a subject. -/
def About (s : Subject) (texts : List String) : Prop :=
  ∀ text ∈ texts, opensWith s.opening text

namespace About

variable {s : Subject} {texts : List String}

theorem filter (about : About s texts) (t : Subject) :
    texts.filter (opensWith t.opening) = if s = t then texts else [] := by
  split
  · next same => exact List.filter_eq_self.2 (same ▸ about)
  · next apart =>
    rw [List.filter_eq_nil_iff]
    exact fun text member opens => apart (Subject.eq_of_opensWith (about text member) opens)

theorem nil : About s [] :=
  List.forall_mem_nil _

theorem singleton {text : String} (opens : opensWith s.opening text) : About s [text] :=
  List.forall_mem_singleton.2 opens

theorem append {more : List String} (first : About s texts) (second : About s more) :
    About s (texts ++ more) :=
  List.forall_mem_append.2 ⟨first, second⟩

theorem ite {p : Prop} [Decidable p] {more : List String} (first : About s texts)
    (second : About s more) : About s (if p then texts else more) := by
  split
  · exact first
  · exact second

end About

/-! Each part of a check has a subject of its own. -/

theorem about_duplicateWarnings (seen : List String) (models : List Model) :
    About .duplicate (duplicateWarnings seen models) := by
  induction models generalizing seen with
  | nil => exact .nil
  | cons model models ih =>
      refine .append (.ite (.singleton ?_) .nil) (ih _)
      exact opensWith_append_of (opensWith_append _ model.name) _

theorem about_unknown (schema : Schema) (mentions : List (List Nat × Mention)) :
    About .field (schema.unknown mentions) := by
  intro text member
  obtain ⟨⟨_, path, target⟩, -, rfl⟩ := List.mem_map.1 member
  cases target <;>
    exact opensWith_append_of (opensWith_append_of (opensWith_append_of
      (opensWith_append _ path) _) _) _

theorem about_hintWarnings (schema : Schema) (model : Model) (field : Field) :
    About .relation (schema.hintWarnings model field) := by
  unfold hintWarnings
  split
  · next hint _ =>
    refine .ite (.singleton ?_) .nil
    exact opensWith_append_of (opensWith_append_of (opensWith_append_of (opensWith_append_of
      (opensWith_append_of (opensWith_append_of (opensWith_append _ model.name) _) field.name) _)
      hint.model) _) _
  · exact .nil

theorem about_primaryKey (model : Model) :
    About .primaryKey
      (if model.primaryKey?.isNone then [s!"model `{model.name}` has no primary key"] else []) :=
  .ite (.singleton (opensWith_append_of (opensWith_append _ model.name) _)) .nil

theorem about_enumWarnings (enum : Enumeration) : About .enumeration (enumWarnings enum) :=
  .ite (.singleton (opensWith_append_of (opensWith_append _ enum.name) _)) .nil

section Parts

variable (schema : Schema)

theorem filter_modelWarnings (model : Model) (s : Subject) :
    (schema.modelWarnings model).filter (opensWith s.opening) =
      (if .primaryKey = s then
        if model.primaryKey?.isNone then [s!"model `{model.name}` has no primary key"] else []
      else []) ++
        model.fields.flatMap fun field =>
          (if .field = s then
            schema.typeWarnings (model.name ++ "." ++ field.name) field.type else []) ++
            if .relation = s then schema.hintWarnings model field else [] := by
  rw [modelWarnings, List.filter_append, (about_primaryKey model).filter, List.filter_flatMap]
  simp only [List.filter_append, typeWarnings_eq, (about_unknown schema _).filter,
    (about_hintWarnings schema model _).filter]

theorem warningsOn_eq (s : Subject) :
    schema.warningsOn s =
      (if .duplicate = s then duplicateWarnings [] schema.models else []) ++
        (schema.models.flatMap fun model =>
          (schema.modelWarnings model).filter (opensWith s.opening)) ++
        if .enumeration = s then schema.enums.flatMap enumWarnings else [] := by
  have enums : About .enumeration (schema.enums.flatMap enumWarnings) := by
    intro text member
    obtain ⟨enum, -, here⟩ := List.mem_flatMap.1 member
    exact about_enumWarnings enum text here
  rw [warningsOn, check, Report.warnings_ofFindings, checkWarnings, List.filter_append,
    List.filter_append, List.filter_flatMap, (about_duplicateWarnings [] schema.models).filter,
    enums.filter]

theorem warningsOn_field : schema.warningsOn .field = schema.unknown schema.mentions := by
  rw [warningsOn_eq, unknown_mentions]
  simp [filter_modelWarnings]

theorem warningsOn_relation :
    schema.warningsOn .relation =
      schema.models.flatMap fun model => model.fields.flatMap (schema.hintWarnings model) := by
  rw [warningsOn_eq]
  simp [filter_modelWarnings]

end Parts

/-! When there is nothing to warn of. -/

theorem duplicateWarnings_eq_nil_iff {seen : List String} {models : List Model} :
    duplicateWarnings seen models = [] ↔
      (models.map (·.name)).Nodup ∧ ∀ model ∈ models, model.name ∉ seen := by
  induction models generalizing seen with
  | nil => simp [duplicateWarnings]
  | cons model models ih =>
      have here : (if seen.contains model.name then [s!"duplicate model name `{model.name}`"]
          else []) = [] ↔ model.name ∉ seen := by simp
      rw [duplicateWarnings, List.append_eq_nil_iff, ih, here, List.forall_mem_cons, List.map_cons,
        List.nodup_cons, List.mem_map]
      constructor
      · rintro ⟨fresh, nodup, others⟩
        refine ⟨⟨?_, nodup⟩, fresh, fun m member known => others m member (.tail _ known)⟩
        rintro ⟨m, member, same⟩
        exact others m member (same ▸ List.mem_cons_self)
      · rintro ⟨⟨apart, nodup⟩, fresh, others⟩
        refine ⟨fresh, nodup, fun m member known => ?_⟩
        rcases List.mem_cons.1 known with same | earlier
        · exact apart ⟨m, member, same⟩
        · exact others m member earlier

variable {schema : Schema}

theorem unknown_eq_nil_iff {mentions : List (List Nat × Mention)} :
    schema.unknown mentions = [] ↔ ∀ m ∈ mentions, schema.Declares m.2.target := by
  simp [unknown]

theorem hintWarnings_eq_nil_iff {model : Model} {field : Field} :
    schema.hintWarnings model field = [] ↔
      ∀ hint ∈ field.relation, schema.Declares (.model hint.model) := by
  unfold hintWarnings
  cases field.relation with
  | none => simp
  | some hint =>
      simp only [isNone_model?]
      simp

theorem modelWarnings_eq_nil_iff {model : Model} :
    schema.modelWarnings model = [] ↔
      (∃ field ∈ model.fields, field.primaryKey) ∧
      (∀ field ∈ model.fields,
        schema.typeWarnings (model.name ++ "." ++ field.name) field.type = []) ∧
      ∀ field ∈ model.fields, ∀ hint ∈ field.relation, schema.Declares (.model hint.model) := by
  have key : (if model.primaryKey?.isNone then [s!"model `{model.name}` has no primary key"]
      else []) = [] ↔ ∃ field ∈ model.fields, field.primaryKey := by
    simp [Model.primaryKey?]
  rw [modelWarnings, List.append_eq_nil_iff, key, List.flatMap_eq_nil_iff]
  simp only [List.append_eq_nil_iff, hintWarnings_eq_nil_iff, forall_and]

theorem warnings_eq_nil_iff :
    schema.check.warnings = [] ↔
      (schema.models.map (·.name)).Nodup ∧
      (∀ model ∈ schema.models, ∃ field ∈ model.fields, field.primaryKey) ∧
      (∀ enum ∈ schema.enums, enum.values ≠ []) ∧
      (∀ m ∈ schema.mentions, schema.Declares m.2.target) ∧
      ∀ model ∈ schema.models, ∀ field ∈ model.fields, ∀ hint ∈ field.relation,
        schema.Declares (.model hint.model) := by
  have duplicates : duplicateWarnings [] schema.models = [] ↔ (schema.models.map (·.name)).Nodup := by
    simp [duplicateWarnings_eq_nil_iff]
  have enums : schema.enums.flatMap enumWarnings = [] ↔ ∀ enum ∈ schema.enums, enum.values ≠ [] := by
    simp [enumWarnings]
  have types : (∀ m ∈ schema.mentions, schema.Declares m.2.target) ↔
      ∀ model ∈ schema.models, ∀ field ∈ model.fields,
        schema.typeWarnings (model.name ++ "." ++ field.name) field.type = [] := by
    simp only [← unknown_eq_nil_iff, unknown_mentions, List.flatMap_eq_nil_iff]
  rw [check, Report.warnings_ofFindings, checkWarnings, List.append_eq_nil_iff,
    List.append_eq_nil_iff, duplicates, enums, types, List.flatMap_eq_nil_iff]
  simp only [modelWarnings_eq_nil_iff, forall_and]
  constructor
  · rintro ⟨⟨distinct, keys, names, hints⟩, values⟩
    exact ⟨distinct, keys, values, names, hints⟩
  · rintro ⟨distinct, keys, values, names, hints⟩
    exact ⟨⟨distinct, keys, names, hints⟩, values⟩

theorem errors_check_eq_nil_iff : schema.check.errors = [] ↔ schema.version = currentVersion := by
  simp [check, checkErrors]

variable (schema)

/-- A check is sound and complete. What it warns of in fields are the names in their types, through
arrays and inline objects, that nothing in the schema has, in the order of their places; it has no
warnings exactly if these and all else that a schema should have is there, and no errors exactly if
the version is the one that is read. -/
theorem check_exact :
    schema.warningsOn .field =
      (schema.mentions.filter fun m => ¬schema.Declares m.2.target).map (fun m => m.2.warning) ∧
    (∀ place m, (place, m) ∈ schema.mentions ↔ schema.Names place m) ∧
    (schema.mentions.Pairwise fun x y => x.1 < y.1) ∧
    (schema.check.warnings = [] ↔
      (schema.models.map (·.name)).Nodup ∧
      (∀ model ∈ schema.models, ∃ field ∈ model.fields, field.primaryKey) ∧
      (∀ enum ∈ schema.enums, enum.values ≠ []) ∧
      (∀ place m, schema.Names place m → schema.Declares m.target) ∧
      ∀ model ∈ schema.models, ∀ field ∈ model.fields, ∀ hint ∈ field.relation,
        schema.Declares (.model hint.model)) ∧
    (schema.check.errors = [] ↔ schema.version = "1.0") ∧
    schema.check.valid = schema.check.isValid := by
  refine ⟨schema.warningsOn_field, fun place m => schema.mem_mentions_iff,
    schema.pairwise_mentions, ?_, errors_check_eq_nil_iff, Report.agrees_ofFindings _ _⟩
  rw [warnings_eq_nil_iff]
  simp only [Prod.forall, mem_mentions_iff]

/-- Names under two layers of arrays and an inline object; that of the field behind them comes
last. -/
example :
    let lines : Field := .new "lines" (.array (.object [
      .new "item" (.array (.reference "Item")) true, .new "unit" (.enumeration "Unit") true])) true
    let state : Field := .new "state" (.enumeration "State") true
    (Schema.new {} [⟨"Order", [lines, state], [], [], {}, none, false, false, {}⟩] []).warningsOn
      .field = ["field `Order.lines.item` references unknown model `Item`",
        "field `Order.lines.unit` uses unknown enum `Unit`",
        "field `Order.state` uses unknown enum `State`"] := by
  decide

end Scaffold.Schema
