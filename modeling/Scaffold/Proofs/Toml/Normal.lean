import Scaffold.Proofs.Json.Records
import Scaffold.Toml.Codec

/-!
Values whose tables have their keys in order, and putting the keys of a value in order. A record is
found in the ordered table of its members, wherever they stood.
-/

namespace Scaffold.Toml

/-- Keys come in increasing order in every table of the value. -/
inductive Normal : Toml → Prop
  | string (s) : Normal (.string s)
  | integer (n) : Normal (.integer n)
  | float (x) : Normal (.float x)
  | boolean (b) : Normal (.boolean b)
  | datetime (d) : Normal (.datetime d)
  | array {items} : (∀ item ∈ items, Normal item) → Normal (.array items)
  | table {entries} : KeysIncrease entries → (∀ e ∈ entries, Normal e.2) → Normal (.table entries)

mutual

/-- The value with the keys of all its tables in order. -/
def ordered : Toml → Toml
  | .array items => .array (orderedItems items)
  | .table entries => .table (sortEntries (orderedEntries entries))
  | v => v

def orderedItems : List Toml → List Toml
  | [] => []
  | item :: items => ordered item :: orderedItems items

def orderedEntries : List (String × Toml) → List (String × Toml)
  | [] => []
  | (key, value) :: entries => (key, ordered value) :: orderedEntries entries

end

theorem orderedItems_eq_map (items : List Toml) : orderedItems items = items.map ordered := by
  induction items with
  | nil => rfl
  | cons item items ih => rw [orderedItems, ih, List.map_cons]

theorem orderedEntries_eq_map (entries : List (String × Toml)) :
    orderedEntries entries = entries.map fun e => (e.1, ordered e.2) := by
  induction entries with
  | nil => rfl
  | cons e entries ih => rw [orderedEntries, ih, List.map_cons]

theorem Normal.ordered_eq {v : Toml} (normal : v.Normal) : ordered v = v := by
  induction normal with
  | string | integer | float | boolean | datetime => rfl
  | array _ ih =>
      rw [ordered, orderedItems_eq_map, List.map_congr_left ih, List.map_id']
  | table increase _ ih =>
      have same : ∀ e ∈ _, (e.1, ordered e.2) = e := fun e member => by rw [ih e member]
      rw [ordered, orderedEntries_eq_map, List.map_congr_left same, List.map_id',
        sortEntries_eq_self increase]

/-! Records. -/

section Records

variable {entries : Members}

/-- Where keys are distinct, a look at one finds the same in the ordered table. -/
theorem lookup_ordered (distinct : (entries.map (·.1)).Nodup) (key : String) :
    (sortEntries (orderedEntries entries)).lookup key = (entries.lookup key).map ordered := by
  have names : ((orderedEntries entries).map (·.1)) = entries.map (·.1) := by
    simp [orderedEntries_eq_map]
  rw [lookup_sortEntries (names ▸ distinct), orderedEntries_eq_map, lookup_map_value]

/-- Of a record with some of the keys all members are found. -/
theorem exists_closedRecord? {keys : List String} (distinct : keys.Nodup)
    (listed : (entries.map (·.1)).Sublist keys) :
    ∃ fields, closedRecord? keys (ordered (.table entries)) = some fields ∧
      ∀ key, fields.lookup key = (entries.lookup key).map ordered := by
  refine ⟨_, if_pos (List.all_eq_true.2 fun e member => ?_),
    lookup_ordered (distinct.sublist listed)⟩
  have source : e ∈ orderedEntries entries := mem_sortEntries member
  rw [orderedEntries_eq_map] at source
  obtain ⟨written, present, rfl⟩ := List.mem_map.1 source
  have own : written.1 ∈ entries.map (·.1) := List.mem_map_of_mem present
  exact List.contains_iff_mem.2 (listed.subset own)

end Records

/-! What values stand for where any value may stand. -/

theorem settledItems?_eq_mapM (items : List Toml) :
    settledItems? items = items.mapM settled? := by
  induction items with
  | nil => rfl
  | cons item items ih => rw [settledItems?, ih, List.mapM_cons]

theorem settledEntries?_eq_mapM (entries : List (String × Toml)) :
    settledEntries? entries = entries.mapM fun e => (settled? e.2).map (e.1, ·) := by
  induction entries with
  | nil => rfl
  | cons e entries ih =>
      rw [settledEntries?, ih, List.mapM_cons]
      cases settled? e.2 <;> rfl

theorem settled?_table_cons {key : String} (other : key ≠ datetimeKey) (value : Toml)
    (entries : List (String × Toml)) :
    settled? (.table ((key, value) :: entries)) =
      (settledEntries? ((key, value) :: entries)).map .table := by
  rw [settled?, if_neg other, settledEntries?]
  cases settled? value with
  | none => rfl
  | some v => cases settledEntries? entries <;> rfl

theorem settledEntries?_eq_self {entries : List (String × Toml)}
    (each : ∀ e ∈ entries, settled? e.2 = some e.2) : settledEntries? entries = some entries := by
  rw [settledEntries?_eq_mapM, Json.mapM_eq_some_iff]
  exact List.map_congr_left fun e member => by rw [each e member, Option.map_some]

/-- What entries stand for is in order as they are, and stands for itself. -/
theorem settledEntries?_settled {entries settled : List (String × Toml)}
    (increase : KeysIncrease entries)
    (each : ∀ e ∈ entries, ∀ w, settled? e.2 = some w → w.Normal ∧ settled? w = some w)
    (taken : settledEntries? entries = some settled) :
    settled.map (·.1) = entries.map (·.1) ∧ KeysIncrease settled ∧
      ∀ e ∈ settled, e.2.Normal ∧ settled? e.2 = some e.2 := by
  rw [settledEntries?_eq_mapM] at taken
  have keys := Json.keys_of_mapM taken
  refine ⟨keys, ?_, fun e member => ?_⟩
  · have apart : (entries.map (·.1)).Pairwise (· < ·) := List.pairwise_map.2 increase
    rw [← keys] at apart
    exact List.pairwise_map.1 apart
  · obtain ⟨source, listed, found⟩ := Json.exists_of_mapM taken member
    obtain ⟨w, value, rfl⟩ := Option.map_eq_some_iff.1 found
    exact each source listed w value

theorem exists_of_ofDatetimeText? {v w : Toml} (read : ofDatetimeText? v = some w) :
    ∃ d, w = .datetime d := by
  cases v with
  | string text =>
      obtain ⟨d, -, rfl⟩ := Option.map_eq_some_iff.1 read
      exact ⟨d, rfl⟩
  | integer | float | boolean | datetime | array | table => cases read

theorem Normal.settled?_settled {v w : Toml} (normal : v.Normal) (taken : settled? v = some w) :
    w.Normal ∧ settled? w = some w := by
  induction normal generalizing w with
  | string s =>
      cases taken
      exact ⟨.string s, rfl⟩
  | integer n =>
      cases taken
      exact ⟨.integer n, rfl⟩
  | float x =>
      cases taken
      exact ⟨.float x, rfl⟩
  | boolean b =>
      cases taken
      exact ⟨.boolean b, rfl⟩
  | datetime d =>
      cases taken
      exact ⟨.datetime d, rfl⟩
  | array _ ih =>
      obtain ⟨items, read, rfl⟩ := Option.map_eq_some_iff.1 taken
      rw [settledItems?_eq_mapM] at read
      have each : ∀ item ∈ items, item.Normal ∧ settled? item = some item := by
        intro item member
        obtain ⟨source, listed, value⟩ := Json.exists_of_mapM read member
        exact ih source listed value
      have again : settledItems? items = some items := by
        rw [settledItems?_eq_mapM, Json.mapM_eq_some_iff]
        exact List.map_congr_left fun item member => (each item member).2
      exact ⟨.array fun item member => (each item member).1, congrArg (Option.map Toml.array) again⟩
  | @table entries increase normal ih =>
      cases entries with
      | nil =>
          cases taken
          exact ⟨.table increase normal, rfl⟩
      | cons e entries =>
          obtain ⟨key, value⟩ := e
          by_cases date : key = datetimeKey
          · rw [settled?, if_pos date] at taken
            obtain ⟨d, rfl⟩ := exists_of_ofDatetimeText? taken
            exact ⟨.datetime d, rfl⟩
          · rw [settled?_table_cons date] at taken
            obtain ⟨settled, read, rfl⟩ := Option.map_eq_some_iff.1 taken
            obtain ⟨keys, increase, each⟩ := settledEntries?_settled increase
              (fun e member w value => ih e member value) read
            refine ⟨.table increase fun e member => (each e member).1, ?_⟩
            have again := settledEntries?_eq_self fun e member => (each e member).2
            cases settled with
            | nil => rfl
            | cons first rest =>
                obtain ⟨same, -⟩ := List.cons.inj keys
                rw [settled?_table_cons (same.trans_ne date), again]
                rfl

end Scaffold.Toml
