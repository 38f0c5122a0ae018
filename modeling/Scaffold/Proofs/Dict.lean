import Mathlib.Data.List.Induction
import Mathlib.Data.List.Nodup
import Scaffold.Dict

/-!
Dictionaries by their keys: two of them are equal when each key has the same value in both. Uniting
dictionaries is associative.
-/

namespace Scaffold

theorem lookup_cons_eq (k l : String) (value : α) (rest : List (String × α)) :
    ((l, value) :: rest).lookup k = if k = l then some value else rest.lookup k := by
  by_cases hit : k = l
  · simp [hit]
  · rw [List.lookup_cons, beq_eq_false_iff_ne.2 hit, if_neg hit]

theorem lookup_insertEntry (key k : String) (value : α) (entries : List (String × α)) :
    (insertEntry key value entries).lookup k =
      if k = key then some value else entries.lookup k := by
  induction entries with
  | nil => exact lookup_cons_eq k key value []
  | cons head rest ih =>
      obtain ⟨l, v⟩ := head
      rw [insertEntry]
      split
      · rw [lookup_cons_eq]
      · split
        · next replaced =>
          subst replaced
          simp only [lookup_cons_eq]
          split <;> rfl
        · next other =>
          rw [lookup_cons_eq, lookup_cons_eq, ih]
          by_cases hit : k = l
          · simp [hit, Ne.symm other]
          · simp [hit]

theorem KeysIncrease.lookup_eq_none {k : String} {rest : List (String × α)}
    (above : ∀ entry ∈ rest, k < entry.1) : rest.lookup k = none := by
  rw [List.lookup_eq_none_iff]
  intro entry member
  rw [bne_iff_ne]
  intro same
  exact String.lt_irrefl k (same ▸ above entry member)

theorem KeysIncrease.lookup_eq_some_iff {entries : List (String × α)}
    (increase : KeysIncrease entries) (k : String) (value : α) :
    entries.lookup k = some value ↔ (k, value) ∈ entries := by
  induction entries with
  | nil => simp
  | cons head rest ih =>
      obtain ⟨l, v⟩ := head
      obtain ⟨above, tail⟩ := List.pairwise_cons.1 increase
      rw [lookup_cons_eq, List.mem_cons]
      by_cases hit : k = l
      · subst hit
        have absent : (k, value) ∉ rest := fun member =>
          absurd (above _ member) (String.lt_irrefl k)
        simp [absent, eq_comm]
      · simp [hit, ih tail]

theorem KeysIncrease.nodup_keys {entries : List (String × α)} (increase : KeysIncrease entries) :
    (entries.map (·.1)).Nodup := by
  refine List.pairwise_map.2 (List.Pairwise.imp ?_ increase)
  intro a b below same
  exact String.lt_irrefl b.1 (same ▸ below)

theorem KeysIncrease.nodup {entries : List (String × α)} (increase : KeysIncrease entries) :
    entries.Nodup :=
  increase.nodup_keys.of_map

theorem mem_sortEntries {entries : List (String × α)} {e : String × α}
    (member : e ∈ sortEntries entries) : e ∈ entries := by
  induction entries using List.reverseRecOn with
  | nil => cases member
  | append_singleton entries last ih =>
      rw [sortEntries, List.foldl_append] at member
      rcases mem_insertEntry member with rfl | member
      · exact List.mem_concat_self
      · exact List.mem_append_left _ (ih member)

theorem lookup_sortEntries {entries : List (String × α)} (distinct : (entries.map (·.1)).Nodup)
    (key : String) : (sortEntries entries).lookup key = entries.lookup key := by
  induction entries using List.reverseRecOn with
  | nil => rfl
  | append_singleton entries last ih =>
      rw [List.map_append, List.nodup_append] at distinct
      obtain ⟨before, -, apart⟩ := distinct
      have sorted : sortEntries (entries ++ [last]) =
          insertEntry last.1 last.2 (sortEntries entries) :=
        List.foldl_append
      rw [sorted, lookup_insertEntry, ih before, List.lookup_append]
      by_cases hit : key = last.1
      · have absent : entries.lookup key = none := by
          rw [List.lookup_eq_none_iff]
          intro e member
          have other : e.1 ≠ last.1 :=
            apart e.1 (List.mem_map_of_mem member) last.1 (by simp)
          exact bne_iff_ne.2 fun same => other (same.symm.trans hit)
        rw [if_pos hit, absent, Option.none_or, lookup_cons_eq, if_pos hit]
      · rw [if_neg hit, lookup_cons_eq, if_neg hit, List.lookup_nil, Option.or_none]

theorem lookup_map_value (f : α → β) (entries : List (String × α)) (key : String) :
    (entries.map fun e => (e.1, f e.2)).lookup key = (entries.lookup key).map f := by
  induction entries with
  | nil => rfl
  | cons e entries ih =>
      rw [List.map_cons, lookup_cons_eq, lookup_cons_eq, ih]
      by_cases hit : key = e.1 <;> simp [hit]

theorem insertEntry_of_above {key : String} {value : α} {entries : List (String × α)}
    (above : ∀ entry ∈ entries, entry.1 < key) :
    insertEntry key value entries = entries ++ [(key, value)] := by
  induction entries with
  | nil => rfl
  | cons head rest ih =>
      obtain ⟨k, v⟩ := head
      have less : k < key := above (k, v) List.mem_cons_self
      have notLess : ¬key < k := fun other => String.lt_irrefl k (String.lt_trans less other)
      have apart : key ≠ k := fun same => String.lt_irrefl k (same ▸ less)
      rw [insertEntry, if_neg notLess, if_neg apart,
        ih fun entry member => above entry (List.mem_cons_of_mem _ member), List.cons_append]

theorem sortEntries_eq_self {entries : List (String × α)} (increase : KeysIncrease entries) :
    sortEntries entries = entries := by
  induction entries using List.reverseRecOn with
  | nil => rfl
  | append_singleton entries last ih =>
      obtain ⟨before, -, above⟩ := List.pairwise_append.1 increase
      have sorted : sortEntries entries = entries := ih before
      unfold sortEntries at sorted ⊢
      rw [List.foldl_append, sorted]
      exact insertEntry_of_above fun entry member => above entry member last List.mem_cons_self

namespace Dict

theorem ofList_entries (d : Dict α) : ofList d.entries = d :=
  Dict.ext (sortEntries_eq_self d.sorted)

theorem ext_get? {d e : Dict α} (same : ∀ k, d.get? k = e.get? k) : d = e := by
  have members : ∀ entry, entry ∈ d.entries ↔ entry ∈ e.entries := by
    rintro ⟨k, value⟩
    rw [← d.sorted.lookup_eq_some_iff, ← e.sorted.lookup_eq_some_iff]
    exact iff_of_eq (congrArg (· = some value) (same k))
  have perm : d.entries.Perm e.entries :=
    (List.perm_ext_iff_of_nodup d.sorted.nodup e.sorted.nodup).2 members
  refine Dict.ext (List.Perm.eq_of_pairwise ?_ d.sorted e.sorted perm)
  intro a b _ _ below above
  exact absurd (String.lt_trans below above) (String.lt_irrefl _)

@[simp] theorem get?_insert (d : Dict α) (key k : String) (value : α) :
    (d.insert key value).get? k = if k = key then some value else d.get? k :=
  lookup_insertEntry key k value d.entries

theorem get?_foldl_insert (d : Dict α) (k : String) {entries : List (String × α)}
    (increase : KeysIncrease entries) :
    (entries.foldl (fun merged entry => merged.insert entry.1 entry.2) d).get? k =
      (entries.lookup k).or (d.get? k) := by
  induction entries generalizing d with
  | nil => rfl
  | cons head rest ih =>
      obtain ⟨l, value⟩ := head
      obtain ⟨above, tail⟩ := List.pairwise_cons.1 increase
      rw [List.foldl_cons, ih _ tail, lookup_cons_eq, get?_insert]
      by_cases hit : k = l
      · subst hit
        rw [KeysIncrease.lookup_eq_none above]
        simp
      · simp [hit]

@[simp] theorem get?_union (d e : Dict α) (k : String) :
    (d.union e).get? k = (e.get? k).or (d.get? k) :=
  get?_foldl_insert d k e.sorted

theorem union_assoc (a b c : Dict α) : (a.union b).union c = a.union (b.union c) :=
  ext_get? fun k => by simp [Option.or_assoc]

end Dict

end Scaffold
