/-!
Dictionaries: entries in increasing order of their keys, each key once. Two dictionaries with the
same entries are equal, and inserting a key again replaces its value.
-/

namespace Scaffold

def KeysIncrease (entries : List (String × α)) : Prop :=
  entries.Pairwise fun a b => a.1 < b.1

/-- Puts an entry into its place, over one of the same key. -/
def insertEntry (key : String) (value : α) : List (String × α) → List (String × α)
  | [] => [(key, value)]
  | (k, v) :: rest =>
      if key < k then (key, value) :: (k, v) :: rest
      else if key = k then (key, value) :: rest
      else (k, v) :: insertEntry key value rest

theorem mem_insertEntry {key : String} {value : α} {entries : List (String × α)}
    {e : String × α} (h : e ∈ insertEntry key value entries) :
    e = (key, value) ∨ e ∈ entries := by
  induction entries with
  | nil => simpa [insertEntry] using h
  | cons head rest ih =>
      obtain ⟨k, v⟩ := head
      simp only [insertEntry] at h
      split at h
      · simpa using h
      · split at h
        · rcases List.mem_cons.1 h with h | h
          · exact .inl h
          · exact .inr (List.mem_cons_of_mem _ h)
        · rcases List.mem_cons.1 h with h | h
          · exact .inr (h ▸ List.mem_cons_self)
          · exact (ih h).imp id (List.mem_cons_of_mem _)

theorem keysIncrease_insertEntry {entries : List (String × α)} (key : String) (value : α)
    (h : KeysIncrease entries) : KeysIncrease (insertEntry key value entries) := by
  induction entries with
  | nil => simp [insertEntry, KeysIncrease]
  | cons head rest ih =>
      obtain ⟨k, v⟩ := head
      obtain ⟨above, tail⟩ := List.pairwise_cons.1 h
      simp only [insertEntry]
      split
      · next lt =>
        refine List.pairwise_cons.2 ⟨fun e he => ?_, h⟩
        rcases List.mem_cons.1 he with rfl | he
        · exact lt
        · exact String.lt_trans lt (above e he)
      · next notLt =>
        split
        · next eq =>
          subst eq
          exact List.pairwise_cons.2 ⟨above, tail⟩
        · next ne =>
          refine List.pairwise_cons.2 ⟨fun e he => ?_, ih tail⟩
          rcases mem_insertEntry he with rfl | he
          · rcases Classical.em (k < key) with lt | notGt
            · exact lt
            · exact absurd (String.le_antisymm (String.not_lt.1 notGt) (String.not_lt.1 notLt)) ne
          · exact above e he

/-- The entries in order, the last of each key. -/
def sortEntries (entries : List (String × α)) : List (String × α) :=
  entries.foldl (fun sorted e => insertEntry e.1 e.2 sorted) []

theorem keysIncrease_foldl_insertEntry (entries : List (String × α)) {sorted : List (String × α)}
    (h : KeysIncrease sorted) :
    KeysIncrease (entries.foldl (fun sorted e => insertEntry e.1 e.2 sorted) sorted) := by
  induction entries generalizing sorted with
  | nil => exact h
  | cons e rest ih => exact ih (keysIncrease_insertEntry e.1 e.2 h)

theorem keysIncrease_sortEntries (entries : List (String × α)) :
    KeysIncrease (sortEntries entries) :=
  keysIncrease_foldl_insertEntry entries List.Pairwise.nil

structure Dict (α : Type) where
  entries : List (String × α)
  sorted : KeysIncrease entries

namespace Dict

def empty : Dict α := ⟨[], List.Pairwise.nil⟩

instance : EmptyCollection (Dict α) := ⟨empty⟩
instance : Inhabited (Dict α) := ⟨empty⟩

def insert (d : Dict α) (key : String) (value : α) : Dict α :=
  ⟨insertEntry key value d.entries, keysIncrease_insertEntry key value d.sorted⟩

/-- Of entries with one key the last counts. -/
def ofList (entries : List (String × α)) : Dict α :=
  ⟨sortEntries entries, keysIncrease_sortEntries entries⟩

def get? (d : Dict α) (key : String) : Option α :=
  d.entries.lookup key

def keys (d : Dict α) : List String :=
  d.entries.map (·.1)

def isEmpty (d : Dict α) : Bool :=
  d.entries.isEmpty

/-- Both dictionaries' entries; where both have a key, the second one's. -/
def union (d e : Dict α) : Dict α :=
  e.entries.foldl (fun merged entry => merged.insert entry.1 entry.2) d

theorem ext {d e : Dict α} (h : d.entries = e.entries) : d = e := by
  cases d; cases e; cases h; rfl

instance [BEq α] : BEq (Dict α) := ⟨fun d e => d.entries == e.entries⟩

end Dict

end Scaffold
