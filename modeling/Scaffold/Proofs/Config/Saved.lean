import Mathlib
import Scaffold.Config.File
import Scaffold.Proofs.Config.Entries
import Scaffold.Proofs.Config.Records
import Scaffold.Proofs.FileTree.Walks
import Scaffold.Proofs.Text.Utf8
import Scaffold.Proofs.Toml.Reading

/-!
Configurations that were saved. Loading one gives it back if it can be used, and else reports what
keeps it from being used.
-/

namespace Scaffold.Config

/-- The options of plugins hold their keys in order, in all their tables. -/
def Normal (c : Config) : Prop :=
  ∀ e ∈ c.plugins.entries, e.2.Normal

/-- Documents give back the values that are written to them: the document of the configuration holds
its members in the order of their keys, and where any value may stand the options of plugins stand for
themselves. -/
structure ReadsBack (c : Config) : Prop where
  document : Toml.read? c.document = some (sortEntries (Toml.orderedEntries c.toToml))
  options : ∀ e ∈ c.plugins.entries, Toml.settled? e.2 = some e.2

variable {c : Config}

theorem ofDocument_document (normal : c.Normal) (back : c.ReadsBack) :
    ofDocument c.document = c.validate := by
  have read : (Toml.read? c.document).bind (fun entries => ofTree? (Toml.table entries)) =
      some c := by
    rw [back.document, Option.bind_some]
    exact ofTree?_ordered ⟨normal, back.options⟩
  unfold ofDocument
  rw [read]

theorem load_of_save {t u : FileTree} {path : String} (saved : c.save t path = .ok u) :
    load u path = ofDocument c.document := by
  have text : u.readText path = .ok (some c.document) := by
    unfold FileTree.readText
    rw [FileTree.read_of_write saved]
    exact congrArg Except.ok (Text.Utf8.decode?_encode c.document)
  unfold load
  rw [text]

/-! What comes out of a document. -/

theorem regular_of_dict? {v : Toml} {d : Dict Toml} (normal : v.Normal)
    (read : Toml.dict? v = some d) :
    ∀ e ∈ d.entries, e.2.Normal ∧ Toml.settled? e.2 = some e.2 := by
  cases normal with
  | string | integer | float | boolean | array => cases read
  | datetime d =>
      cases read
      intro e member
      obtain rfl := List.mem_singleton.1 member
      exact ⟨.string _, rfl⟩
  | table increase each =>
      obtain ⟨settled, taken, rfl⟩ := Option.map_eq_some_iff.1 read
      intro e member
      exact (Toml.settledEntries?_settled increase
        (fun e member w => (each e member).settled?_settled) taken).2.2 e (mem_sortEntries member)

theorem regular_of_ofTree? {entries : Toml.Members} (normal : (Toml.table entries).Normal)
    (read : ofTree? (Toml.table entries) = some c) : c.Regular := by
  obtain ⟨fields, record, read⟩ := Option.bind_eq_some_iff.1 read
  iterate 11 obtain ⟨_, -, read⟩ := Option.bind_eq_some_iff.1 read
  obtain ⟨plugins, found, built⟩ := Option.bind_eq_some_iff.1 read
  cases built
  obtain rfl : entries = fields := Option.some.inj (Option.ite_none_right_eq_some.1 record).2
  have each : ∀ e ∈ plugins.entries, e.2.Normal ∧ Toml.settled? e.2 = some e.2 := by
    unfold Fields.defaulted at found
    split at found
    · cases found
      nofun
    · next v present =>
      cases normal with
      | table increase each =>
        have member := (increase.lookup_eq_some_iff "plugins" v).1 present
        exact regular_of_dict? (each _ member) found
  exact ⟨fun e member => (each e member).1, fun e member => (each e member).2⟩

/-- A configuration that a document holds is in order, and its options stand for themselves. -/
theorem regular_of_ofDocument {text : String} (read : ofDocument text = .ok c) : c.Regular := by
  unfold ofDocument at read
  split at read
  · next d found =>
    obtain ⟨entries, taken, decoded⟩ := Option.bind_eq_some_iff.1 found
    obtain rfl : c = d := eq_of_validate read
    exact regular_of_ofTree? (Toml.normal_of_read? taken) decoded
  · cases read

/-- A configuration with options of several kinds. -/
def sample : Config :=
  { new "s" with
    plugins := .ofList [("jwt", .table [("keys", .array [.integer 1, .boolean true]),
      ("seal", .string "\"")])] }

/-- A configuration without a schema. -/
def unnamed : Config :=
  new ""

theorem normal_sample : sample.Normal := by
  have increase : KeysIncrease [("keys", Toml.array [.integer 1, .boolean true]),
      ("seal", .string "\"")] := by
    refine List.pairwise_pair.2 ?_
    decide
  have listed : ∀ item ∈ [Toml.integer 1, .boolean true], item.Normal := by
    simpa using ⟨Toml.Normal.integer 1, Toml.Normal.boolean true⟩
  intro e member
  obtain rfl := List.mem_singleton.1 member
  refine .table increase ?_
  simpa using ⟨Toml.Normal.array listed, Toml.Normal.string "\""⟩

/-! Documents in which all settings hold their defaults: the tables of the settings come after the
schema and the output, and before the options of plugins. -/

def settingsText : String :=
  "\n[api]\nrest = true\ngraphql = false\ntrpc = false\n\n" ++
  "[features]\nvalidation = true\npagination = true\nsoft_delete = false\ntimestamps = true\n" ++
  "openapi = true\ntests = false\n\n[logging]\nlevel = \"info\"\nformat = \"pretty\"\n\n" ++
  "[merge]\nstrategy = \"last-wins\"\n"

def settings (output schema : Toml) : Toml.Entries :=
  [("api", .table .header [("graphql", .value (.boolean false)), ("rest", .value (.boolean true)),
      ("trpc", .value (.boolean false))]),
    ("features", .table .header [("openapi", .value (.boolean true)),
      ("pagination", .value (.boolean true)), ("soft_delete", .value (.boolean false)),
      ("tests", .value (.boolean false)), ("timestamps", .value (.boolean true)),
      ("validation", .value (.boolean true))]),
    ("logging", .table .header [("format", .value (.string "pretty")),
      ("level", .value (.string "info"))]),
    ("merge", .table .header [("strategy", .value (.string "last-wins"))]),
    ("output", .value output), ("schema", .value schema)]

theorem readLines?_settingsText (fuel : Nat) (output schema : Toml) (rest : List Char) :
    Toml.readLines? (fuel + 16) ⟨[], [("output", .value output), ("schema", .value schema)]⟩
        (settingsText.toList ++ rest) =
      Toml.readLines? fuel ⟨["merge"], settings output schema⟩ rest := by
  unfold settingsText
  repeat rw [String.toList_append]
  repeat rw [String.toList_ofList]
  cbv

/-- What stands in front of the settings and behind them is read apart from them. -/
theorem read?_settingsText (output schema : Toml) (d : Toml.Document) {front behind : String}
    {first : List Char} (starts : front.toList = 's' :: first)
    (opens : ∀ fuel rest, Toml.readLines? (fuel + 2) {} (front.toList ++ rest) =
      Toml.readLines? fuel ⟨[], [("output", .value output), ("schema", .value schema)]⟩ rest)
    (closes : ∀ fuel, Toml.readLines? (fuel + 4) ⟨["merge"], settings output schema⟩
      behind.toList = some d) :
    Toml.read? (front ++ settingsText ++ behind) = some (Toml.Draft.closeEntries d.entries) := by
  have text : (front ++ settingsText ++ behind).toList =
      front.toList ++ (settingsText.toList ++ behind.toList) := by
    rw [String.toList_append, String.toList_append, List.append_assoc]
  -- the reader has a turn for each character, which is more than it needs for the lines
  have long : 21 ≤ settingsText.toList.length := by decide +kernel
  obtain ⟨fuel, enough⟩ : ∃ fuel,
      (front ++ settingsText ++ behind).toList.length + 1 = fuel + 4 + 16 + 2 := by
    refine ⟨(front ++ settingsText ++ behind).toList.length - 21, ?_⟩
    rw [text, List.length_append, List.length_append]
    omega
  have read : Toml.read? (front ++ settingsText ++ behind) =
      (Toml.readLines? ((front ++ settingsText ++ behind).toList.length + 1) {}
        (front ++ settingsText ++ behind).toList).map fun d => Toml.Draft.closeEntries d.entries := by
    unfold Toml.read?
    rw [text, starts]
    rfl
  rw [read, enough, text, opens, readLines?_settingsText, closes, Option.map_some]

/-- What is read of the options of `sample`. -/
def sampleOptions : Toml.Draft :=
  .table .implied [("jwt", .table .header
    [("keys", .value (.array [.integer 1, .boolean true])), ("seal", .value (.string "\""))])]

theorem readsBack_sample : sample.ReadsBack where
  document := by
    have text : sample.document = "schema = \"s\"\noutput = \"generated\"\n" ++ settingsText ++
        "\n[plugins.jwt]\nkeys = [\n    1,\n    true,\n]\nseal = '\"'\n" := by
      decide +kernel
    rw [text]
    refine (read?_settingsText (.string "generated") (.string "s") ⟨["plugins", "jwt"],
      insertEntry "plugins" sampleOptions (settings (.string "generated") (.string "s"))⟩
      String.toList_ofList (fun fuel rest => ?opens) fun fuel => ?closes).trans rfl
    case opens =>
      rw [String.toList_ofList]
      cbv
    case closes =>
      rw [String.toList_ofList]
      cbv
  options := by
    intro e member
    obtain rfl := List.mem_singleton.1 member
    rfl

theorem readsBack_unnamed : unnamed.ReadsBack where
  document := by
    have text : unnamed.document =
        "schema = \"\"\noutput = \"generated\"\n" ++ settingsText ++ "" := by
      decide +kernel
    rw [text]
    refine (read?_settingsText (.string "generated") (.string "") ⟨["merge"],
      settings (.string "generated") (.string "")⟩
      String.toList_ofList (fun fuel rest => ?opens) fun _ => rfl).trans rfl
    case opens =>
      rw [String.toList_ofList]
      cbv
  options := nofun

end Scaffold.Config
