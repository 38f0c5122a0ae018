import Scaffold.Config.Codec
import Scaffold.Proofs.Toml.Normal

/-!
Configurations read back from their trees. A member that is left out stands for the default of its
field, and a document may hold the members in any order.
-/

namespace Scaffold

open Json (LawfulNamed)
open Toml (Members ordered exists_closedRecord?)

instance : LawfulNamed LogFormat where
  named?_name f := by cases f <;> rfl

instance : LawfulNamed MergeStrategy where
  named?_name s := by cases s <;> rfl

namespace Toml

theorem lookup_textMember (key k : String) (text : Option String) :
    (textMember key text).lookup k = if k = key then text.map .string else none := by
  cases text with
  | none => simp [textMember]
  | some s => exact lookup_cons_eq k key _ []

theorem lookup_listMember (key k : String) (items : List String) :
    (listMember key items).lookup k =
      if k = key then (if items = [] then none else some (ofStrings items)) else none := by
  cases items with
  | nil => simp [listMember]
  | cons item items => exact lookup_cons_eq k key _ []

theorem lookup_flagMember (key k : String) (flag : Bool) :
    (flagMember key flag).lookup k =
      if k = key then (if flag then some (.boolean true) else none) else none := by
  cases flag with
  | false => simp [flagMember]
  | true => exact lookup_cons_eq k key _ []

theorem lookup_dictMember (key k : String) (d : Dict Toml) :
    (dictMember key d).lookup k =
      if k = key then (if d.entries = [] then none else some (.table d.entries)) else none := by
  obtain ⟨entries, sorted⟩ := d
  cases entries with
  | nil => simp [dictMember, Dict.isEmpty]
  | cons e entries => exact lookup_cons_eq k key _ []

@[simp] theorem ordered_boolean (b : Bool) : ordered (.boolean b) = .boolean b := rfl

@[simp] theorem ordered_string (s : String) : ordered (.string s) = .string s := rfl

@[simp] theorem ordered_ofNamed [Json.Named α] (a : α) : ordered (ofNamed a) = ofNamed a := rfl

theorem keys_textMember_sublist (key : String) (text : Option String) :
    ((textMember key text).map (·.1)).Sublist [key] := by
  cases text <;> simp [textMember]

theorem keys_listMember_sublist (key : String) (items : List String) :
    ((listMember key items).map (·.1)).Sublist [key] := by
  cases items <;> simp [listMember]

theorem keys_flagMember_sublist (key : String) (flag : Bool) :
    ((flagMember key flag).map (·.1)).Sublist [key] := by
  cases flag <;> simp [flagMember]

theorem keys_dictMember_sublist (key : String) (d : Dict Toml) :
    ((dictMember key d).map (·.1)).Sublist [key] := by
  unfold dictMember
  split <;> simp

theorem ordered_ofStrings (items : List String) : ordered (ofStrings items) = ofStrings items := by
  refine Normal.ordered_eq (.array fun item member => ?_)
  obtain ⟨s, -, rfl⟩ := List.mem_map.1 member
  exact .string s

end Toml

namespace ConfigTree

variable {fields : Members} {key : String}

@[simp] theorem boolean?_boolean (b : Bool) : boolean? (Toml.boolean b) = some b := rfl

@[simp] theorem string?_string (s : String) : string? (Toml.string s) = some s := rfl

@[simp] theorem choice?_ofNamed [Json.Named α] [LawfulNamed α] (a : α) :
    choice? (Toml.ofNamed a) = some a :=
  LawfulNamed.named?_name a

theorem strings?_ofStrings (items : List String) :
    strings? (Toml.ofStrings items) = some items := by
  change (items.map Toml.string).mapM string? = some items
  exact Json.mapM_map fun _ _ => rfl

theorem exists_record? {entries : Members} {keys : List String} (distinct : keys.Nodup)
    (listed : (entries.map (·.1)).Sublist keys) :
    ∃ fields, record? keys (ordered (.table entries)) = some fields ∧
      ∀ key, fields.lookup key = (entries.lookup key).map ordered :=
  exists_closedRecord? distinct listed

theorem optional_text {text : Option String}
    (look : fields.lookup key = (text.map Toml.string).map ordered) :
    optional fields key string? = some text := by
  unfold optional
  rw [look]
  cases text <;> rfl

theorem defaulted_strings {items : List String}
    (look : fields.lookup key =
      (if items = [] then none else some (Toml.ofStrings items)).map ordered) :
    Fields.defaulted fields key [] strings? = some items := by
  unfold Fields.defaulted
  rw [look]
  by_cases none : items = []
  · simp [none]
  · simp [none, Toml.ordered_ofStrings, strings?_ofStrings]

theorem defaulted_flag {flag : Bool}
    (look : fields.lookup key = (if flag then some (Toml.boolean true) else none).map ordered) :
    Fields.defaulted fields key false boolean? = some flag := by
  unfold Fields.defaulted
  rw [look]
  cases flag <;> rfl

end ConfigTree

namespace Styles

def members (s : Styles) : Members :=
  [("rest", .boolean s.rest), ("graphql", .boolean s.graphql), ("trpc", .boolean s.trpc)]

theorem ofTree?_ordered (s : Styles) : ofTree? (ordered s.toToml) = some s := by
  have listed : (s.members.map (·.1)).Sublist keys := .refl keys
  obtain ⟨fields, record, look⟩ := ConfigTree.exists_record? (by decide) listed
  change ofTree? (ordered (.table s.members)) = some s
  rw [ofTree?, record]
  simp [Fields.defaulted, look, members, lookup_cons_eq]

end Styles

namespace Features

def members (f : Features) : Members :=
  [("validation", .boolean f.validation), ("pagination", .boolean f.pagination),
    ("soft_delete", .boolean f.softDelete), ("timestamps", .boolean f.timestamps),
    ("openapi", .boolean f.openapi), ("tests", .boolean f.tests)]

theorem ofTree?_ordered (f : Features) : ofTree? (ordered f.toToml) = some f := by
  have listed : (f.members.map (·.1)).Sublist keys := .refl keys
  obtain ⟨fields, record, look⟩ := ConfigTree.exists_record? (by decide) listed
  change ofTree? (ordered (.table f.members)) = some f
  rw [ofTree?, record]
  simp [Fields.defaulted, look, members, lookup_cons_eq]

end Features

namespace LogSettings

def members (l : LogSettings) : Members :=
  [("level", .string l.level), ("format", Toml.ofNamed l.format)]

theorem ofTree?_ordered (l : LogSettings) : ofTree? (ordered l.toToml) = some l := by
  have listed : (l.members.map (·.1)).Sublist keys := .refl keys
  obtain ⟨fields, record, look⟩ := ConfigTree.exists_record? (by decide) listed
  change ofTree? (ordered (.table l.members)) = some l
  rw [ofTree?, record]
  simp [Fields.defaulted, look, members, lookup_cons_eq]

end LogSettings

namespace MergeStrategy

def members (s : MergeStrategy) : Members :=
  [("strategy", Toml.ofNamed s)]

theorem ofTree?_ordered (s : MergeStrategy) : ofTree? (ordered s.toToml) = some s := by
  have listed : (s.members.map (·.1)).Sublist ["strategy"] := .refl _
  obtain ⟨fields, record, look⟩ := ConfigTree.exists_record? (by decide) listed
  change ofTree? (ordered (.table s.members)) = some s
  rw [ofTree?, record]
  simp [Fields.defaulted, look, members]

end MergeStrategy

namespace Config

/-- What is handed on to plugins is in order, and stands for itself. -/
structure Regular (c : Config) : Prop where
  normal : ∀ e ∈ c.plugins.entries, e.2.Normal
  settled : ∀ e ∈ c.plugins.entries, Toml.settled? e.2 = some e.2

theorem keys_toToml_sublist (c : Config) : (c.toToml.map (·.1)).Sublist keys := by
  simp only [toToml, List.map_append]
  exact (((((((List.Sublist.refl _).append (Toml.keys_textMember_sublist _ _)).append
    (Toml.keys_listMember_sublist _ _)).append (Toml.keys_textMember_sublist _ _)).append
    (Toml.keys_listMember_sublist _ _)).append (.refl _)).append
    (Toml.keys_flagMember_sublist _ _)).append (Toml.keys_dictMember_sublist _ _)

theorem defaulted_plugins {c : Config} (regular : c.Regular) {fields : Members}
    (look : fields.lookup "plugins" =
      (if c.plugins.entries = [] then none else some (.table c.plugins.entries)).map ordered) :
    Fields.defaulted fields "plugins" {} ConfigTree.dict? = some c.plugins := by
  unfold Fields.defaulted
  rw [look]
  by_cases none : c.plugins.entries = []
  · rw [if_pos none]
    exact congrArg some (Dict.ext none.symm)
  · have same : ordered (.table c.plugins.entries) = .table c.plugins.entries :=
      Toml.Normal.ordered_eq (.table c.plugins.sorted regular.normal)
    rw [if_neg none, Option.map_some, same]
    change (Toml.settledEntries? c.plugins.entries).map Dict.ofList = some c.plugins
    rw [Toml.settledEntries?_eq_self regular.settled, Option.map_some, Dict.ofList_entries]

theorem ofTree?_ordered {c : Config} (regular : c.Regular) :
    ofTree? (ordered (.table c.toToml)) = some c := by
  obtain ⟨fields, record, look⟩ :=
    ConfigTree.exists_record? (by decide) c.keys_toToml_sublist
  simp only [toToml, List.lookup_append, Toml.lookup_textMember, Toml.lookup_listMember,
    Toml.lookup_flagMember, Toml.lookup_dictMember, lookup_cons_eq, List.lookup_nil] at look
  have schema : Fields.required fields "schema" ConfigTree.string? = some c.schema := by
    simp [Fields.required, look]
  have output : Fields.defaulted fields "output" "generated" ConfigTree.string? =
      some c.output := by
    simp [Fields.defaulted, look]
  have adapter : ConfigTree.optional fields "adapter" ConfigTree.string? = some c.adapter :=
    ConfigTree.optional_text (by simp [look])
  have auth : Fields.defaulted fields "auth" [] ConfigTree.strings? = some c.auth :=
    ConfigTree.defaulted_strings (by simp [look])
  have database : ConfigTree.optional fields "database" ConfigTree.string? = some c.database :=
    ConfigTree.optional_text (by simp [look])
  have deploy : Fields.defaulted fields "deploy" [] ConfigTree.strings? = some c.deploy :=
    ConfigTree.defaulted_strings (by simp [look])
  have styles : Fields.defaulted fields "api" {} Styles.ofTree? = some c.styles := by
    simp [Fields.defaulted, look, Styles.ofTree?_ordered]
  have features : Fields.defaulted fields "features" {} Features.ofTree? = some c.features := by
    simp [Fields.defaulted, look, Features.ofTree?_ordered]
  have logging : Fields.defaulted fields "logging" {} LogSettings.ofTree? = some c.logging := by
    simp [Fields.defaulted, look, LogSettings.ofTree?_ordered]
  have strategy : Fields.defaulted fields "merge" .lastWins MergeStrategy.ofTree? =
      some c.strategy := by
    simp [Fields.defaulted, look, MergeStrategy.ofTree?_ordered]
  have strict : Fields.defaulted fields "strict" false ConfigTree.boolean? = some c.strict :=
    ConfigTree.defaulted_flag (by simp [look])
  have plugins : Fields.defaulted fields "plugins" {} ConfigTree.dict? = some c.plugins :=
    defaulted_plugins regular (by simp [look])
  rw [ofTree?, record]
  simp only [Option.bind_eq_bind, Option.bind_some, schema, output, adapter, auth, database,
    deploy, styles, features, logging, strategy, strict, plugins]
  rfl

end Config

end Scaffold
