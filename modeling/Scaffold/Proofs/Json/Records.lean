import Scaffold.Proofs.Json.Values

/-!
Records read back. The fields of an encoded record stand in a row of slots, each with its tree or
empty; where no two have one key, a look at a key finds what is in its slot. So a record reads back if
its fields do, and if an empty slot stands for the default of its field.
-/

namespace Scaffold.Json

/-- The fields of a record in their order, each with its tree unless it is left out. -/
abbrev Slots := List (String × Option Json)

/-- The members of a record: the slots that are not empty. -/
def present (slots : Slots) : Members :=
  slots.filterMap fun slot => slot.2.map (slot.1, ·)

theorem canonicalItems_eq_map (items : List Json) :
    canonicalItems items = items.map canonical := by
  induction items with
  | nil => rfl
  | cons item items ih => rw [canonicalItems, ih, List.map_cons]

theorem canonicalMembers_eq_map (members : Members) :
    canonicalMembers members = members.map fun m => (m.1, canonical m.2) := by
  induction members with
  | nil => rfl
  | cons m members ih => rw [canonicalMembers, ih, List.map_cons]

section Slots

variable {slots : Slots}

theorem present_cons_none (key : String) (slots : Slots) :
    present ((key, none) :: slots) = present slots := rfl

@[simp] theorem present_cons_some (key : String) (j : Json) (slots : Slots) :
    present ((key, some j) :: slots) = (key, j) :: present slots := rfl

theorem keys_present_sublist (slots : Slots) :
    ((present slots).map (·.1)).Sublist (slots.map (·.1)) := by
  induction slots with
  | nil => exact .slnil
  | cons slot slots ih =>
      obtain ⟨key, _ | j⟩ := slot
      · exact ih.cons key
      · exact ih.cons_cons key

variable (distinct : (slots.map (·.1)).Nodup)
include distinct

theorem lookup_present (key : String) :
    (present slots).lookup key = (slots.lookup key).join := by
  induction slots with
  | nil => rfl
  | cons slot slots ih =>
      obtain ⟨first, value⟩ := slot
      obtain ⟨absent, rest⟩ := List.nodup_cons.1 distinct
      rw [lookup_cons_eq]
      cases value with
      | none =>
          rw [present_cons_none, ih rest]
          by_cases hit : key = first
          · subst hit
            have empty : slots.lookup key = none := by
              rw [List.lookup_eq_none_iff]
              intro slot member
              exact bne_iff_ne.2 fun same => absent (List.mem_map.2 ⟨slot, member, same.symm⟩)
            simp [empty]
          · rw [if_neg hit]
      | some j =>
          rw [present_cons_some, lookup_cons_eq, ih rest]
          by_cases hit : key = first <;> simp [hit]

/-- No key is repeated in a record, so it is read, and a look at a key finds what is in its slot. -/
theorem exists_record?_present (keys : List String) :
    ∃ members, record? keys (.object (present slots)) = some members ∧
      ∀ key, members.lookup key = (slots.lookup key).join := by
  have known : ((known keys (present slots)).map (·.1)).Nodup :=
    ((List.filter_sublist.map _).trans (keys_present_sublist slots)).nodup distinct
  exact ⟨present slots, if_pos known, lookup_present distinct⟩

/-- The same of the record in its canonical form, in which the fields stand in the order of their
keys. -/
theorem exists_record?_canonical (keys : List String) :
    ∃ members, record? keys (canonical (.object (present slots))) = some members ∧
      ∀ key, members.lookup key = (slots.lookup key).join.map canonical := by
  have names : ((canonicalMembers (present slots)).map (·.1)).Nodup := by
    rw [canonicalMembers_eq_map, List.map_map]
    exact (keys_present_sublist slots).nodup distinct
  have known : ((known keys (sortEntries (canonicalMembers (present slots)))).map (·.1)).Nodup :=
    (keysIncrease_sortEntries _).nodup_keys.sublist (List.filter_sublist.map _)
  refine ⟨_, if_pos known, fun key => ?_⟩
  rw [lookup_sortEntries names, canonicalMembers_eq_map, lookup_map_value, lookup_present distinct]

end Slots

section Members

variable {encode : α → Json} (key : String) (slots : Slots)

@[simp] theorem present_nil : present [] = [] := rfl

@[simp] theorem present_cons_map (o : Option α) :
    present ((key, o.map encode) :: slots) = optionalMember key encode o ++ present slots := by
  cases o <;> rfl

@[simp] theorem present_cons_items (items : List α) :
    present ((key, if items = [] then none else some (ofList encode items)) :: slots) =
      nonemptyMember key encode items ++ present slots := by
  cases items <;> rfl

@[simp] theorem present_cons_entries (d : Dict α) :
    present ((key, if d.entries = [] then none else some (ofDict encode d)) :: slots) =
      dictMember key encode d ++ present slots := by
  obtain ⟨entries, sorted⟩ := d
  cases entries <;> rfl

end Members

/-! What slots are read as. -/

/-- A field that may be left out or be `null`. -/
def readOptional (decode : Json → Option α) : Option Json → Option (Option α)
  | none | some .null => some none
  | some j => (decode j).map some

/-- A field that has a default where it is left out. -/
def readDefaulted (default : α) (decode : Json → Option α) : Option Json → Option α
  | none => some default
  | some j => decode j

@[simp] theorem Members.optional_eq (members : Members) (key : String) (decode : Json → Option α) :
    members.optional key decode = readOptional decode (members.lookup key) := rfl

@[simp] theorem Members.defaulted_eq (members : Members) (key : String) (default : α)
    (decode : Json → Option α) :
    Fields.defaulted members key default decode =
      readDefaulted default decode (members.lookup key) := by
  unfold Fields.defaulted readDefaulted
  cases members.lookup key <;> rfl

@[simp] theorem Members.required_eq (members : Members) (key : String) (decode : Json → Option α) :
    Fields.required members key decode = (members.lookup key).bind decode := rfl

@[simp] theorem readDefaulted_some (default : α) (decode : Json → Option α) (j : Json) :
    readDefaulted default decode (some j) = decode j := rfl

theorem readOptional_map {encode : α → Json} {decode : Json → Option α} {o : Option α}
    (back : ∀ a, o = some a → decode (encode a) = some a)
    (filled : ∀ a, o = some a → encode a ≠ .null) :
    readOptional decode (o.map encode) = some o := by
  cases o with
  | none => rfl
  | some a =>
      have back := back a rfl
      have filled := filled a rfl
      rw [Option.map_some]
      unfold readOptional
      split
      · contradiction
      · simp_all
      · simp_all

theorem mapM_eq_some_iff {decode : β → Option α} {items : List β} {decoded : List α} :
    items.mapM decode = some decoded ↔ items.map decode = decoded.map some := by
  induction items generalizing decoded with
  | nil => cases decoded <;> simp
  | cons item items ih =>
      cases decoded with
      | nil => simp [Option.bind_eq_some_iff]
      | cons a decoded => simp [Option.bind_eq_some_iff, ih]

theorem exists_of_mapM {decode : β → Option α} {items : List β} {decoded : List α}
    (read : items.mapM decode = some decoded) {a : α} (member : a ∈ decoded) :
    ∃ item ∈ items, decode item = some a := by
  have listed : some a ∈ decoded.map some := List.mem_map_of_mem member
  rw [← mapM_eq_some_iff.1 read] at listed
  exact List.mem_map.1 listed

theorem keys_of_mapM {decode : β → Option α} {entries : List (String × β)}
    {decoded : List (String × α)}
    (read : entries.mapM (fun e => (decode e.2).map (e.1, ·)) = some decoded) :
    decoded.map (·.1) = entries.map (·.1) := by
  have same := mapM_eq_some_iff.1 read
  clear read
  induction entries generalizing decoded with
  | nil =>
      obtain rfl : decoded = [] := by simpa using same.symm
      rfl
  | cons e entries ih =>
      cases decoded with
      | nil => cases same
      | cons d decoded =>
          obtain ⟨first, rest⟩ := List.cons.inj same
          obtain ⟨a, -, rfl⟩ := Option.map_eq_some_iff.1 first
          rw [List.map_cons, List.map_cons, ih rest]

theorem mapM_map {encode : α → β} {decode : β → Option α} {items : List α}
    (back : ∀ a ∈ items, decode (encode a) = some a) :
    (items.map encode).mapM decode = some items := by
  rw [mapM_eq_some_iff, List.map_map]
  exact List.map_congr_left back

theorem list?_ofList {encode : α → Json} {decode : Json → Option α} {items : List α}
    (back : ∀ a ∈ items, decode (encode a) = some a) :
    list? decode (ofList encode items) = some items :=
  mapM_map back

theorem readDefaulted_items {encode : α → Json} {decode : Json → Option α} {items : List α}
    (back : ∀ a ∈ items, decode (encode a) = some a) :
    readDefaulted [] (list? decode)
      (if items = [] then none else some (ofList encode items)) = some items := by
  by_cases none : items = []
  · simp [none, readDefaulted]
  · simp [none, list?_ofList back]

theorem dict?_ofDict {encode : α → Json} {decode : Json → Option α} {d : Dict α}
    (back : ∀ a, decode (encode a) = some a) : dict? decode (ofDict encode d) = some d := by
  have entries : (d.entries.map fun e => (e.1, encode e.2)).mapM
      (fun m => (decode m.2).map (m.1, ·)) = some d.entries :=
    mapM_map fun e _ => by simp [back]
  simp [dict?, ofDict, entries, Dict.ofList_entries]

theorem readDefaulted_entries {encode : α → Json} {decode : Json → Option α} {d : Dict α}
    (back : ∀ a, decode (encode a) = some a) :
    readDefaulted {} (dict? decode)
      (if d.entries = [] then none else some (ofDict encode d)) = some d := by
  by_cases none : d.entries = []
  · rw [if_pos none]
    exact congrArg some (Dict.ext none.symm)
  · rw [if_neg none]
    exact dict?_ofDict back

theorem mem_of_dict? {decode : Json → Option α} {members : Members} {d : Dict α}
    (read : dict? decode (.object members) = some d) {e : String × α} (member : e ∈ d.entries) :
    ∃ j, (e.1, j) ∈ members ∧ decode j = some e.2 := by
  simp only [dict?, Option.bind_eq_bind, Option.bind_eq_some_iff] at read
  obtain ⟨entries, decoded, built⟩ := read
  cases built
  obtain ⟨⟨key, j⟩, source, taken⟩ := exists_of_mapM decoded (mem_sortEntries member)
  obtain ⟨a, value, rfl⟩ := Option.map_eq_some_iff.1 taken
  exact ⟨j, source, value⟩

/-! Plain values. -/

@[simp] theorem string?_string (s : String) : string? (.string s) = some s := rfl

@[simp] theorem bool?_bool (b : Bool) : bool? (.bool b) = some b := rfl

@[simp] theorem list?_strings (items : List String) :
    list? string? (strings items) = some items :=
  list?_ofList fun _ _ => rfl

@[simp] theorem readOptional_string (o : Option String) :
    readOptional string? (o.map .string) = some o :=
  readOptional_map (fun _ _ => rfl) fun _ _ => nofun

@[simp] theorem readOptional_bool (o : Option Bool) :
    readOptional bool? (o.map .bool) = some o :=
  readOptional_map (fun _ _ => rfl) fun _ _ => nofun

theorem natBelow?_ofNat {bound n : Nat} (below : n < bound) :
    natBelow? bound (ofNat n) = some n := by
  have bound : (n : Int) < bound := by exact_mod_cast below
  simp [natBelow?, ofNat, bound]

@[simp] theorem uint32?_toNat (n : UInt32) : uint32? (ofNat n.toNat) = some n := by
  simp [uint32?, natBelow?_ofNat n.toNat_lt]

@[simp] theorem readOptional_uint32 (o : Option UInt32) :
    readOptional uint32? (o.map fun n => ofNat n.toNat) = some o :=
  readOptional_map (fun n _ => uint32?_toNat n) fun _ _ => nofun

@[simp] theorem uint64?_toNat (n : UInt64) : uint64? (ofNat n.toNat) = some n := by
  simp [uint64?, natBelow?_ofNat n.toNat_lt]

@[simp] theorem readOptional_uint64 (o : Option UInt64) :
    readOptional uint64? (o.map fun n => ofNat n.toNat) = some o :=
  readOptional_map (fun n _ => uint64?_toNat n) fun _ _ => nofun

theorem readOptional_float {o : Option Float} (finite : ∀ x, o = some x → x.isFinite) :
    readOptional float? (o.map ofFloat) = some o := by
  have written (x : Float) (some : o = some x) : ofFloat x = .float x := if_pos (finite x some)
  refine readOptional_map (fun x some => ?_) fun x some => ?_
  · rw [written x some]
    rfl
  · rw [written x some]
    nofun

/-- A set of named values in which every value is found by its name. -/
class LawfulNamed (α : Type) [Named α] : Prop where
  named?_name (a : α) : named? (Named.name a) = some a

section Named

variable [Named α] [LawfulNamed α]

@[simp] theorem heldChoice?_ofNamed (held : Bool) (a : α) :
    heldChoice? held (ofNamed a) = some a :=
  LawfulNamed.named?_name a

@[simp] theorem choice?_ofNamed (a : α) : choice? (ofNamed a) = some a :=
  heldChoice?_ofNamed false a

@[simp] theorem readOptional_heldChoice (held : Bool) (o : Option α) :
    readOptional (heldChoice? held) (o.map ofNamed) = some o :=
  readOptional_map (fun a _ => heldChoice?_ofNamed held a) fun _ _ => nofun

@[simp] theorem readOptional_choice (o : Option α) :
    readOptional choice? (o.map ofNamed) = some o :=
  readOptional_heldChoice false o

end Named

end Scaffold.Json
