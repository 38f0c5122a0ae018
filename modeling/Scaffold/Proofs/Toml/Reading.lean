import Scaffold.Proofs.Toml.Normal
import Scaffold.Toml.Reader

/-!
What is read from a document has its keys in order. Drafts are built by putting entries into their
places, and putting an entry into its place keeps the order.
-/

namespace Scaffold.Toml

/-- Keys come in increasing order in every table of the draft. -/
inductive Draft.Normal : Draft → Prop
  | value {v} : v.Normal → Normal (.value v)
  | table {origin entries} : KeysIncrease entries → (∀ e ∈ entries, Normal e.2) →
      Normal (.table origin entries)
  | tables {elements} : (∀ entries ∈ elements, KeysIncrease entries) →
      (∀ entries ∈ elements, ∀ e ∈ entries, Normal e.2) → Normal (.tables elements)

structure Entries.Normal (entries : Entries) : Prop where
  increase : KeysIncrease entries
  each : ∀ e ∈ entries, e.2.Normal

namespace Draft

theorem closeEntries_eq_map (entries : Entries) :
    closeEntries entries = entries.map fun e => (e.1, close e.2) := by
  induction entries with
  | nil => rfl
  | cons e entries ih => rw [closeEntries, ih, List.map_cons]

theorem closeElements_eq_map (elements : List Entries) :
    closeElements elements = elements.map fun entries => .table (closeEntries entries) := by
  induction elements with
  | nil => rfl
  | cons entries elements ih => rw [closeElements, ih, List.map_cons]

theorem normal_closeEntries {entries : Entries} (increase : KeysIncrease entries)
    (each : ∀ e ∈ entries, (close e.2).Normal) : (Toml.table (closeEntries entries)).Normal := by
  rw [closeEntries_eq_map]
  refine .table (List.pairwise_map.2 increase) fun e member => ?_
  obtain ⟨source, listed, rfl⟩ := List.mem_map.1 member
  exact each source listed

theorem Normal.close {d : Draft} (normal : d.Normal) : d.close.Normal := by
  induction normal with
  | value normal => exact normal
  | table increase _ ih => exact normal_closeEntries increase ih
  | tables increase _ ih =>
      refine .array fun item member => ?_
      rw [List.mem_reverse, closeElements_eq_map] at member
      obtain ⟨entries, listed, rfl⟩ := List.mem_map.1 member
      exact normal_closeEntries (increase entries listed) (ih entries listed)

theorem Normal.entries {origin : Origin} {entries : Entries}
    (normal : (Draft.table origin entries).Normal) : entries.Normal := by
  cases normal with
  | table increase each => exact ⟨increase, each⟩

theorem Normal.elements {elements : List Entries} (normal : (Draft.tables elements).Normal) :
    ∀ entries ∈ elements, entries.Normal := by
  cases normal with
  | tables increase each => exact fun entries member => ⟨increase entries member, each entries member⟩

theorem Normal.ofElements {elements : List Entries} (each : ∀ entries ∈ elements, entries.Normal) :
    (Draft.tables elements).Normal :=
  .tables (fun entries member => (each entries member).increase)
    fun entries member => (each entries member).each

end Draft

namespace Entries

variable {entries result : Entries}

theorem Normal.nil : Entries.Normal [] :=
  ⟨.nil, nofun⟩

theorem Normal.insert (normal : entries.Normal) (key : String) {d : Draft} (fresh : d.Normal) :
    Entries.Normal (insertEntry key d entries) := by
  refine ⟨keysIncrease_insertEntry key d normal.increase, fun e member => ?_⟩
  rcases mem_insertEntry member with rfl | member
  · exact fresh
  · exact normal.each e member

theorem Normal.of_lookup (normal : entries.Normal) {key : String} {d : Draft}
    (found : entries.lookup key = some d) : d.Normal :=
  normal.each (key, d) ((normal.increase.lookup_eq_some_iff key d).1 found)

theorem Normal.close (normal : entries.Normal) :
    (Toml.table (Draft.closeEntries entries)).Normal :=
  Draft.normal_closeEntries normal.increase fun e member => (normal.each e member).close

theorem Normal.draft (normal : entries.Normal) (origin : Origin) :
    (Draft.table origin entries).Normal :=
  .table normal.increase normal.each

/-- A change keeps the order in all entries if it keeps it in the table at the end of the path. -/
theorem Normal.within {origin here : Origin} {change : Origin → Entries → Option Entries}
    (keeps : ∀ {there inner out}, Normal inner → change there inner = some out → Normal out)
    {path : List String} (normal : entries.Normal)
    (changed : within origin change path here entries = some result) : result.Normal := by
  induction path generalizing here entries result with
  | nil => exact keeps normal changed
  | cons key path ih =>
      have put : ∀ {next : Option Draft}, (∀ d, next = some d → d.Normal) →
          (next.bind fun d => some (insertEntry key d entries)) = some result → result.Normal := by
        intro next fresh built
        obtain ⟨d, made, built⟩ := Option.bind_eq_some_iff.1 built
        cases built
        exact normal.insert key (fresh d made)
      rw [Entries.within] at changed
      split at changed
      · refine put (fun d made => ?_) changed
        obtain ⟨inner, changed, rfl⟩ := Option.map_eq_some_iff.1 made
        exact (ih .nil changed).draft origin
      · next there inner found =>
        have before : Entries.Normal inner := (normal.of_lookup found).entries
        split at changed
        · cases changed
        · refine put (fun d made => ?_) changed
          obtain ⟨inner, changed, rfl⟩ := Option.map_eq_some_iff.1 made
          exact (ih before changed).draft there
      · next last earlier found =>
        refine put (fun d made => ?_) changed
        obtain ⟨first, rest⟩ := List.forall_mem_cons.1 (normal.of_lookup found).elements
        obtain ⟨last, changed, rfl⟩ := Option.map_eq_some_iff.1 made
        exact .ofElements (List.forall_mem_cons.2 ⟨ih first changed, rest⟩)
      · cases changed

theorem Normal.assign {path : List String} {key : String} {value : Toml} (normal : entries.Normal)
    (fresh : value.Normal) (added : entries.assign path key value = some result) :
    result.Normal := by
  refine normal.within (fun {there inner out} before put => ?_) added
  split at put
  · cases put
  · split at put
    · cases put
    · cases put
      exact before.insert key (.value fresh)

theorem Normal.openTable {path : List String} {key : String} (normal : entries.Normal)
    (opened : entries.openTable path key = some result) : result.Normal := by
  refine normal.within (fun {there inner out} before put => ?_) opened
  split at put
  · cases put
    exact before.insert key (Normal.nil.draft .header)
  · next within found =>
    cases put
    exact before.insert key ((before.of_lookup found).entries.draft .header)
  · cases put

theorem Normal.openElement {path : List String} {key : String} (normal : entries.Normal)
    (opened : entries.openElement path key = some result) : result.Normal := by
  refine normal.within (fun {there inner out} before put => ?_) opened
  split at put
  · cases put
    exact before.insert key (.ofElements (List.forall_mem_singleton.2 .nil))
  · next elements found =>
    cases put
    have earlier := (before.of_lookup found).elements
    exact before.insert key (.ofElements (List.forall_mem_cons.2 ⟨.nil, earlier⟩))
  · cases put

theorem Normal.assignUnder {header path : List String} {key : String} {value : Toml}
    (normal : entries.Normal) (fresh : value.Normal)
    (added : entries.assignUnder header path key value = some result) : result.Normal :=
  normal.within (fun before put => before.assign fresh put) added

end Entries

/-! What is read. -/

theorem normal_of_integerOf? {negative : Bool} {n : Nat} {v : Toml}
    (read : integerOf? negative n = some v) : v.Normal := by
  simp only [integerOf?, Option.ite_none_right_eq_some, Option.some.injEq] at read
  obtain ⟨-, rfl⟩ := read
  exact .integer _

theorem normal_of_readInteger? {cs : List Char} {v : Toml} (read : readInteger? cs = some v) :
    v.Normal := by
  unfold readInteger? at read
  split at read
  all_goals
    obtain ⟨n, -, read⟩ := Option.bind_eq_some_iff.1 read
    exact normal_of_integerOf? read

theorem normal_of_readFloat? {cs : List Char} {v : Toml} (read : readFloat? cs = some v) :
    v.Normal := by
  unfold readFloat? at read
  simp only [Option.bind_eq_bind] at read
  split at read
  · cases read
    exact .float _
  · split at read
    · cases read
      exact .float _
    · split at read
      · cases read
      · simp only [Option.bind_eq_some_iff] at read
        obtain ⟨whole, -, fraction, -, exponent, -, x, -, built⟩ := read
        cases built
        exact .float _

theorem normal_of_readScalar? {cs : List Char} {v : Toml} (read : readScalar? cs = some v) :
    v.Normal := by
  unfold readScalar? at read
  split at read
  · cases read
    exact .boolean true
  · cases read
    exact .boolean false
  · rcases Option.or_eq_some_iff.1 read with read | ⟨-, read⟩
    · exact normal_of_readInteger? read
    · rcases Option.or_eq_some_iff.1 read with read | ⟨-, read⟩
      · exact normal_of_readFloat? read
      · obtain ⟨d, -, rfl⟩ := Option.map_eq_some_iff.1 read
        exact .datetime d

theorem normal_of_readToken? {cs rest : List Char} {v : Toml}
    (read : readToken? cs = some (v, rest)) : v.Normal := by
  have scalar : ∀ {token tail : List Char},
      (readScalar? token).map (·, tail) = some (v, rest) → v.Normal := by
    intro token tail found
    obtain ⟨w, taken, same⟩ := Option.map_eq_some_iff.1 found
    cases same
    exact normal_of_readScalar? taken
  unfold readToken? at read
  simp only at read
  split at read
  · split at read
    · exact scalar read
    · exact scalar read
  · exact scalar read

/-- What is read with so much fuel has its keys in order, and so have the entries of an inline table
with those that are added to them. -/
structure ReadsNormal (fuel : Nat) : Prop where
  value : ∀ {level cs v rest}, readValue? fuel level cs = some (v, rest) → v.Normal
  items : ∀ {level items cs v rest}, (∀ item ∈ items, item.Normal) →
    readItems? fuel level items cs = some (v, rest) → v.Normal
  members : ∀ {level entries cs v rest}, entries.Normal →
    readMembers? fuel level entries cs = some (v, rest) → v.Normal
  member : ∀ {level entries cs result rest}, entries.Normal →
    readMember? fuel level entries cs = some (result, rest) → result.Normal

section Step

variable {fuel level : Nat} {cs rest : List Char} {v : Toml} (reads : ReadsNormal fuel)
include reads

theorem ReadsNormal.value_succ (read : readValue? (fuel + 1) level cs = some (v, rest)) :
    v.Normal := by
  unfold readValue? at read
  split at read
  · split at read
    · exact reads.items (List.forall_mem_nil _) read
    · cases read
  · split at read
    · exact reads.members .nil read
    · cases read
  · obtain ⟨text, -, same⟩ := Option.map_eq_some_iff.1 read
    cases same
    exact .string _
  · obtain ⟨text, -, same⟩ := Option.map_eq_some_iff.1 read
    cases same
    exact .string _
  · exact normal_of_readToken? read

theorem ReadsNormal.items_succ {items : List Toml} (before : ∀ item ∈ items, item.Normal)
    (read : readItems? (fuel + 1) level items cs = some (v, rest)) : v.Normal := by
  have closed : ∀ {all : List Toml}, (∀ item ∈ all, item.Normal) →
      (Toml.array all.reverse).Normal :=
    fun each => .array fun item member => each item (List.mem_reverse.1 member)
  rw [readItems?] at read
  split at read
  · cases read
  · cases read
    exact closed before
  · split at read
    · cases read
    · next item tail found =>
      have all := List.forall_mem_cons.2 ⟨reads.value found, before⟩
      split at read
      · exact reads.items all read
      · cases read
        exact closed all
      · cases read

theorem ReadsNormal.members_succ {entries : Entries} (before : entries.Normal)
    (read : readMembers? (fuel + 1) level entries cs = some (v, rest)) : v.Normal := by
  rw [readMembers?] at read
  split at read
  · cases read
  · cases read
    exact before.close
  · split at read
    · cases read
    · next more tail found =>
      have all := reads.member before found
      split at read
      · exact reads.members all read
      · cases read
        exact all.close
      · cases read

theorem ReadsNormal.member_succ {entries result : Entries} (before : entries.Normal)
    (read : readMember? (fuel + 1) level entries cs = some (result, rest)) : result.Normal := by
  rw [readMember?] at read
  simp only [Option.bind_eq_bind, Option.bind_eq_some_iff] at read
  obtain ⟨⟨path, key, afterKey⟩, -, afterFiller, -, read⟩ := read
  split at read
  · simp only [Option.bind_eq_some_iff] at read
    obtain ⟨start, -, ⟨value, tail⟩, found, added, assigned, built⟩ := read
    cases built
    exact before.assign (reads.value found) assigned
  · cases read

end Step

theorem readsNormal (fuel : Nat) : ReadsNormal fuel := by
  induction fuel with
  | zero =>
      exact ⟨fun read => by simp [readValue?] at read, fun _ read => by simp [readItems?] at read,
        fun _ read => by simp [readMembers?] at read, fun _ read => by simp [readMember?] at read⟩
  | succ fuel ih => exact ⟨ih.value_succ, ih.items_succ, ih.members_succ, ih.member_succ⟩

/-! Documents. -/

theorem normal_of_readLine? {d result : Document} {cs rest : List Char} (before : d.entries.Normal)
    (read : readLine? d cs = some (result, rest)) : result.entries.Normal := by
  unfold readLine? at read
  split at read
  all_goals
    simp only [Option.bind_eq_bind, Option.bind_eq_some_iff] at read
    obtain ⟨⟨path, key, afterKey⟩, -, read⟩ := read
    split at read
  · simp only [Option.bind_eq_some_iff] at read
    obtain ⟨entries, opened, after, -, built⟩ := read
    cases built
    exact before.openElement opened
  · cases read
  · simp only [Option.bind_eq_some_iff] at read
    obtain ⟨entries, opened, after, -, built⟩ := read
    cases built
    exact before.openTable opened
  · cases read
  · simp only [Option.bind_eq_some_iff] at read
    obtain ⟨⟨value, tail⟩, found, entries, added, after, -, built⟩ := read
    cases built
    exact before.assignUnder ((readsNormal _).value found) added
  · cases read

theorem normal_of_readLines? {fuel : Nat} {d result : Document} {cs : List Char}
    (before : d.entries.Normal) (read : readLines? fuel d cs = some result) :
    result.entries.Normal := by
  induction fuel generalizing d cs with
  | zero => cases read
  | succ fuel ih =>
      rw [readLines?] at read
      split at read
      · cases read
      · cases read
        exact before
      · obtain ⟨⟨next, rest⟩, line, later⟩ := Option.bind_eq_some_iff.1 read
        exact ih (normal_of_readLine? before line) later

theorem normal_of_read? {text : String} {entries : Members} (read : read? text = some entries) :
    (Toml.table entries).Normal := by
  obtain ⟨d, lines, rfl⟩ := Option.map_eq_some_iff.1 read
  exact (normal_of_readLines? .nil lines).close

end Scaffold.Toml
