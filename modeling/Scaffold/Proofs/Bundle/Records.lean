import Scaffold.Bundle.Codec
import Scaffold.Proofs.Merge.Bundles
import Scaffold.Proofs.Schema.Records

/-!
Bundles read back from their trees. The extra entries of the metadata stand in one object with its own
members, and come back as long as none of them has the key of such a member. What is read from a tree
never has one.
-/

namespace Scaffold

open Json (LawfulNamed Slots present exists_record?_present)

instance : LawfulNamed FileType where
  named?_name t := by cases t <;> rfl

instance : LawfulNamed FileEncoding where
  named?_name e := by cases e <;> rfl

instance : LawfulNamed DependencyKind where
  named?_name k := by cases k <;> rfl

namespace OutputFile

def slots (f : OutputFile) : Slots :=
  [("path", some (.string f.path)), ("content", some (.string f.content)),
    ("type", f.type.map Json.ofNamed), ("overwrite", f.overwrite.map .bool),
    ("encoding", f.encoding.map Json.ofNamed), ("mode", f.mode.map fun m => .ofNat m.toNat)]

theorem toJson_eq (f : OutputFile) : f.toJson = .object (present f.slots) := by
  simp [toJson, slots]

theorem ofJson?_toJson (f : OutputFile) : ofJson? f.toJson = some f := by
  have distinct : (f.slots.map (·.1)).Nodup := by simp [slots]
  obtain ⟨ms, record, look⟩ := exists_record?_present distinct _
  rw [toJson_eq, ofJson?, record]
  dsimp only [Option.bind_eq_bind, Option.bind_some]
  simp [look, slots, lookup_cons_eq]

end OutputFile

namespace Dependency

def slots (d : Dependency) : Slots :=
  [("name", some (.string d.name)), ("version", some (.string d.version)),
    ("type", d.kind.map Json.ofNamed), ("dev", d.dev.map .bool)]

theorem toJson_eq (d : Dependency) : d.toJson = .object (present d.slots) := by
  simp [toJson, slots]

theorem ofJson?_toJson (d : Dependency) : ofJson? d.toJson = some d := by
  have distinct : (d.slots.map (·.1)).Nodup := by simp [slots]
  obtain ⟨ms, record, look⟩ := exists_record?_present distinct _
  rw [toJson_eq, ofJson?, record]
  dsimp only [Option.bind_eq_bind, Option.bind_some]
  simp [look, slots, lookup_cons_eq]

end Dependency

namespace BundleMetadata

/-- No extra entry has the key of one of the other members. -/
def Apart (m : BundleMetadata) : Prop :=
  ∀ key ∈ keys, m.extra.get? key = none

instance (m : BundleMetadata) : Decidable m.Apart :=
  inferInstanceAs (Decidable (∀ key ∈ keys, m.extra.get? key = none))

/-- Whether the text of the timestamp reads back. -/
def TimeReads (m : BundleMetadata) : Prop :=
  ∀ t, m.generatedAt = some t → Instant.parse? t.text = some t

variable {m : BundleMetadata}

def ownSlots (m : BundleMetadata) : Slots :=
  [("generatedAt", m.generatedAt.map Instant.toJson),
    ("contributors", if m.contributors = [] then none else some (.ofList .string m.contributors))]

def extraSlots (m : BundleMetadata) : Slots :=
  m.extra.entries.map fun e => (e.1, some e.2.tree)

theorem present_extraSlots :
    present m.extraSlots = m.extra.entries.map fun e => (e.1, e.2.tree) := by
  unfold present extraSlots
  rw [List.filterMap_map]
  exact congrFun List.filterMap_eq_map _

theorem toJson_eq : m.toJson = .object (present (m.ownSlots ++ m.extraSlots)) := by
  rw [present, List.filterMap_append, ← present, ← present, present_extraSlots]
  simp [toJson, ownSlots]

theorem Apart.not_mem_keys (apart : m.Apart) {e : String × Json.Value}
    (member : e ∈ m.extra.entries) : e.1 ∉ keys := by
  intro own
  have found : m.extra.get? e.1 = some e.2 :=
    (m.extra.sorted.lookup_eq_some_iff e.1 e.2).2 member
  rw [apart e.1 own] at found
  cases found

theorem Apart.distinct (apart : m.Apart) : ((m.ownSlots ++ m.extraSlots).map (·.1)).Nodup := by
  have names : m.extraSlots.map (·.1) = m.extra.entries.map (·.1) := by
    simp [extraSlots]
  rw [List.map_append, names]
  refine List.nodup_append.2 ⟨by simp [ownSlots], m.extra.sorted.nodup_keys, ?_⟩
  rintro key own _ extra rfl
  obtain ⟨e, member, rfl⟩ := List.mem_map.1 extra
  exact apart.not_mem_keys member (by simpa [ownSlots, keys] using own)

theorem Apart.filter_present (apart : m.Apart) :
    (present (m.ownSlots ++ m.extraSlots)).filter (fun e => !keys.contains e.1) =
      m.extra.entries.map fun e => (e.1, e.2.tree) := by
  rw [present, List.filterMap_append, ← present, ← present, present_extraSlots,
    List.filter_append]
  have own : (present m.ownSlots).filter (fun e => !keys.contains e.1) = [] := by
    rw [List.filter_eq_nil_iff]
    intro e member
    have named : e.1 ∈ keys :=
      (Json.keys_present_sublist m.ownSlots).mem (List.mem_map_of_mem member)
    simpa using named
  have extra : (m.extra.entries.map fun e => (e.1, e.2.tree)).filter
      (fun e => !keys.contains e.1) = m.extra.entries.map fun e => (e.1, e.2.tree) := by
    rw [List.filter_eq_self]
    intro e member
    obtain ⟨entry, listed, rfl⟩ := List.mem_map.1 member
    simpa using apart.not_mem_keys listed
  rw [own, extra, List.nil_append]

/-- The object of metadata is a record; a look at a key finds what is in its slot, and the members
beside its own are the extra entries. -/
theorem Apart.exists_record? (apart : m.Apart) :
    ∃ members, m.toJson = .object members ∧ (Json.object members).record? keys = some members ∧
      (∀ key, members.lookup key = ((m.ownSlots ++ m.extraSlots).lookup key).join) ∧
      members.filter (fun e => !keys.contains e.1) =
        m.extra.entries.map fun e => (e.1, e.2.tree) := by
  refine ⟨_, toJson_eq, if_pos ?_, Json.lookup_present apart.distinct, apart.filter_present⟩
  exact apart.distinct.sublist
    ((List.filter_sublist.map _).trans (Json.keys_present_sublist _))

theorem ofJson?_toJson (apart : m.Apart) (time : m.TimeReads) : ofJson? m.toJson = some m := by
  have contributors : Json.readDefaulted [] (Json.list? Json.string?)
      (if m.contributors = [] then none else some (.ofList .string m.contributors)) =
        some m.contributors :=
    Json.readDefaulted_items fun _ _ => rfl
  have extra : Json.dict? Json.Value.ofJson?
      (.object (m.extra.entries.map fun e => (e.1, e.2.tree))) = some m.extra :=
    Json.dict?_ofDict Json.Value.ofJson?_tree
  obtain ⟨members, written, record, look, rest⟩ := apart.exists_record?
  rw [written, ofJson?, record]
  dsimp only [Option.bind_eq_bind, Option.bind_some]
  rw [rest, extra]
  simp [look, ownSlots, lookup_cons_eq, contributors, Instant.readOptional time]

theorem apart_of_ofJson? {j : Json} (read : ofJson? j = some m) : m.Apart := by
  cases j with
  | object members =>
      simp only [ofJson?, Option.bind_eq_bind, Option.bind_eq_some_iff] at read
      obtain ⟨found, -, _, -, _, -, extra, gathered, built⟩ := read
      cases built
      intro key own
      rw [Dict.get?, List.lookup_eq_none_iff]
      intro e member
      obtain ⟨j, beside, -⟩ := Json.mem_of_dict? gathered member
      have other : e.1 ∉ keys := by simpa using (List.mem_filter.1 beside).2
      exact bne_iff_ne.2 fun same => other (same ▸ own)
  | null | bool | integer | float | string | array | unreadable => cases read

theorem Apart.merge {earlier later : BundleMetadata} (first : earlier.Apart)
    (second : later.Apart) : (earlier.merge later).Apart := by
  intro key own
  change (earlier.extra.union later.extra).get? key = none
  rw [Dict.get?_union, first key own, second key own]
  rfl

theorem TimeReads.merge {earlier later : BundleMetadata} (first : earlier.TimeReads)
    (second : later.TimeReads) : (earlier.merge later).TimeReads := by
  intro t taken
  change (later.generatedAt.orElse fun _ => earlier.generatedAt) = some t at taken
  cases written : later.generatedAt with
  | none =>
      rw [written] at taken
      exact first t taken
  | some u =>
      rw [written] at taken
      exact second t (written.trans taken)

end BundleMetadata

namespace Bundle

/-- Whether the metadata has a property, if there is any. -/
def Describes (P : BundleMetadata → Prop) (b : Bundle) : Prop :=
  ∀ m, b.metadata = some m → P m

instance {P : BundleMetadata → Prop} [DecidablePred P] (b : Bundle) : Decidable (b.Describes P) :=
  inferInstanceAs (Decidable (∀ m, m ∈ b.metadata → P m))

/-- No extra entry has the key of another member of the metadata. -/
def Apart : Bundle → Prop :=
  Describes BundleMetadata.Apart

instance (b : Bundle) : Decidable b.Apart :=
  inferInstanceAs (Decidable (b.Describes BundleMetadata.Apart))

def TimeReads : Bundle → Prop :=
  Describes BundleMetadata.TimeReads

def slots (b : Bundle) : Slots :=
  [("files", some (.ofList OutputFile.toJson b.files)),
    ("dependencies", some (.ofList Dependency.toJson b.dependencies)),
    ("metadata", b.metadata.map BundleMetadata.toJson)]

theorem toJson_eq (b : Bundle) : b.toJson = .object (present b.slots) := by
  simp [toJson, slots]

theorem ofJson?_toJson {b : Bundle} (apart : b.Apart) (time : b.TimeReads) :
    ofJson? b.toJson = some b := by
  have distinct : (b.slots.map (·.1)).Nodup := by simp [slots]
  have files : Json.list? OutputFile.ofJson? (.ofList OutputFile.toJson b.files) = some b.files :=
    Json.list?_ofList fun f _ => f.ofJson?_toJson
  have dependencies : Json.list? Dependency.ofJson? (.ofList Dependency.toJson b.dependencies) =
      some b.dependencies :=
    Json.list?_ofList fun d _ => d.ofJson?_toJson
  have metadata : Json.readOptional BundleMetadata.ofJson?
      (b.metadata.map BundleMetadata.toJson) = some b.metadata :=
    Json.readOptional_map (fun m some => BundleMetadata.ofJson?_toJson (apart m some) (time m some))
      fun _ _ => nofun
  obtain ⟨ms, record, look⟩ := exists_record?_present distinct _
  rw [toJson_eq, ofJson?, record]
  dsimp only [Option.bind_eq_bind, Option.bind_some]
  simp [look, slots, lookup_cons_eq, files, dependencies, metadata]

theorem apart_of_ofJson? {j : Json} {b : Bundle} (read : ofJson? j = some b) : b.Apart := by
  simp only [ofJson?, Option.bind_eq_bind, Option.bind_eq_some_iff] at read
  obtain ⟨ms, -, _, -, _, -, metadata, found, built⟩ := read
  cases built
  intro m present
  obtain rfl : metadata = some m := present
  unfold Json.Members.optional at found
  split at found
  · cases found
  · cases found
  · obtain ⟨_, read, same⟩ := Option.map_eq_some_iff.1 found
    cases same
    exact BundleMetadata.apart_of_ofJson? read

/-- A bundle is read back from its tree just if no extra entry has the key of another member of its
metadata. -/
theorem ofJson?_toJson_iff {b : Bundle} (time : b.TimeReads) :
    ofJson? b.toJson = some b ↔ b.Apart :=
  ⟨apart_of_ofJson?, fun apart => ofJson?_toJson apart time⟩

section Describes

variable {P : BundleMetadata → Prop} (keeps : ∀ {a b}, P a → P b → P (a.merge b))
include keeps

theorem Describes.merge {strategy : MergeStrategy} {earlier later merged : Bundle}
    (first : earlier.Describes P) (second : later.Describes P)
    (ended : merge strategy earlier later = .ok merged) : merged.Describes P := by
  obtain ⟨files, -, built⟩ := bind_eq_ok_iff.1 ended
  cases built
  intro m present
  change BundleMetadata.mergeOptions earlier.metadata later.metadata = some m at present
  cases before : earlier.metadata with
  | none =>
      rw [before] at present
      exact second m present
  | some a =>
      cases after : later.metadata with
      | none =>
          rw [before, after] at present
          exact first m (before.trans present)
      | some b =>
          rw [before, after] at present
          cases present
          exact keeps (first a before) (second b after)

theorem Describes.foldlM {strategy : MergeStrategy} {start final : Bundle} {bundles : List Bundle}
    (first : start.Describes P) (each : ∀ b ∈ bundles, b.Describes P)
    (ended : bundles.foldlM (Bundle.merge strategy) start = .ok final) : final.Describes P := by
  induction bundles generalizing start with
  | nil =>
      cases ended
      exact first
  | cons b bundles ih =>
      obtain ⟨next, merged, rest⟩ := foldlM_merge_cons_eq_ok_iff.1 ended
      have second : b.Describes P := each b List.mem_cons_self
      exact ih (first.merge keeps second merged)
        (fun c member => each c (List.mem_cons_of_mem b member)) rest

theorem Describes.mergeAll {strategy : MergeStrategy} {final : Bundle} {bundles : List Bundle}
    (each : ∀ b ∈ bundles, b.Describes P) (ended : mergeAll strategy bundles = .ok final) :
    final.Describes P := by
  have start : empty.Describes P := fun _ present => nomatch present
  exact start.foldlM keeps each ended

end Describes

end Bundle

end Scaffold
