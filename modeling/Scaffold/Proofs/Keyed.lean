import Mathlib.Data.List.Induction
import Mathlib.Data.List.Nodup

/-!
Lists that are kept by key. An item that comes in is settled with the one that has its key already,
or else goes to the end. What a whole row of items leaves is said key by key: the keys stand in the
order in which they first occur, and each carries what the items of that key settle to.
-/

namespace Scaffold

/-! Keys in the order in which they first occur. -/

def addKey [DecidableEq κ] (keys : List κ) (key : κ) : List κ :=
  if key ∈ keys then keys else keys ++ [key]

theorem eraseDups_concat [DecidableEq κ] (keys : List κ) (key : κ) :
    (keys ++ [key]).eraseDups = addKey keys.eraseDups key := by
  rw [List.eraseDups_append, addKey]
  by_cases known : key ∈ keys
  · simp [known, List.removeAll]
  · simp [known, List.removeAll, List.eraseDups_cons]

theorem nodup_addKey [DecidableEq κ] {keys : List κ} (key : κ) (nodup : keys.Nodup) :
    (addKey keys key).Nodup := by
  unfold addKey
  split
  · exact nodup
  · next absent => exact List.concat_eq_append ▸ nodup.concat absent

theorem nodup_eraseDups [DecidableEq κ] (keys : List κ) : keys.eraseDups.Nodup := by
  induction keys using List.reverseRecOn with
  | nil => exact List.nodup_nil
  | append_singleton keys key ih =>
      rw [eraseDups_concat]
      exact nodup_addKey key ih

theorem eraseDups_of_nodup [DecidableEq κ] {keys : List κ} (nodup : keys.Nodup) :
    keys.eraseDups = keys := by
  induction keys using List.reverseRecOn with
  | nil => rfl
  | append_singleton keys key ih =>
      rw [← List.concat_eq_append, List.nodup_concat] at nodup
      obtain ⟨absent, before⟩ := nodup
      rw [eraseDups_concat, ih before, addKey, if_neg absent]

theorem foldl_addKey_eraseDups [DecidableEq κ] (before keys : List κ) :
    keys.foldl addKey before.eraseDups = (before ++ keys).eraseDups := by
  induction keys generalizing before with
  | nil => simp
  | cons key keys ih =>
      rw [List.foldl_cons, ← eraseDups_concat, ih, List.append_assoc, List.singleton_append]

theorem foldl_addKey [DecidableEq κ] {before : List κ} (nodup : before.Nodup) (keys : List κ) :
    keys.foldl addKey before = (before ++ keys).eraseDups := by
  rw [← foldl_addKey_eraseDups, eraseDups_of_nodup nodup]

theorem foldl_addKey_nil [DecidableEq κ] (keys : List κ) :
    keys.foldl addKey [] = keys.eraseDups :=
  foldl_addKey List.nodup_nil keys

theorem eraseDups_append_eraseDups [DecidableEq κ] (before keys : List κ) :
    (before ++ keys.eraseDups).eraseDups = (before ++ keys).eraseDups := by
  induction keys using List.reverseRecOn with
  | nil => simp
  | append_singleton keys key ih =>
      rw [eraseDups_concat, addKey, ← List.append_assoc, eraseDups_concat, ← ih]
      split
      · next known => simp [addKey, List.mem_eraseDups.1 known]
      · rw [← List.append_assoc, eraseDups_concat]

theorem eraseDups_eraseDups_append [DecidableEq κ] (keys after : List κ) :
    (keys.eraseDups ++ after).eraseDups = (keys ++ after).eraseDups := by
  rw [← foldl_addKey (nodup_eraseDups keys), foldl_addKey_eraseDups]

/-- Items whose keys are not distinct have a first one whose key was there before. -/
theorem exists_first_repeat {α : Type u} {κ : Type v} [DecidableEq κ] (key : α → κ)
    {start items : List α} (distinct : (start.map key).Nodup)
    (repeated : ¬((start ++ items).map key).Nodup) :
    ∃ before a after, items = before ++ a :: after ∧
      ((start ++ before).map key).Nodup ∧ key a ∈ (start ++ before).map key := by
  induction items using List.reverseRecOn with
  | nil => exact absurd (by simpa using distinct) repeated
  | append_singleton items a ih =>
      by_cases early : ((start ++ items).map key).Nodup
      · refine ⟨items, a, [], rfl, early, ?_⟩
        rw [← List.append_assoc, List.map_append, List.map_singleton,
          ← List.concat_eq_append, List.nodup_concat] at repeated
        exact Decidable.of_not_not fun absent => repeated ⟨absent, early⟩
      · obtain ⟨before, b, after, split, unique, known⟩ := ih early
        exact ⟨before, b, after ++ [a], by simp [split], unique, known⟩

/-! Items settled by key. -/

section Settling

variable {κ : Type v} [DecidableEq κ] (key : α → κ) (settle : α → α → α)

/-- Settles an item with the first one that has its key, or else puts it at the end. -/
def settleInto (a : α) : List α → List α
  | [] => [a]
  | b :: bs => if key b = key a then settle b a :: bs else b :: settleInto a bs

def settleAll (as items : List α) : List α :=
  items.foldl (fun as a => settleInto key settle a as) as

/-- An item settled with what is there under its key, if anything is. -/
def settleOnto : Option α → α → α
  | none, a => a
  | some b, a => settle b a

/-- What items of one key settle to, from the first to the last. -/
def settled (items : List α) : Option α :=
  items.foldl (fun found a => some (settleOnto settle found a)) none

theorem foldl_settleOnto (b : α) (items : List α) :
    items.foldl (fun found a => some (settleOnto settle found a)) (some b) =
      some (items.foldl settle b) := by
  induction items generalizing b with
  | nil => rfl
  | cons a items ih => exact ih (settle b a)

@[simp] theorem settled_nil : settled settle [] = none := rfl

@[simp] theorem settled_cons (a : α) (items : List α) :
    settled settle (a :: items) = some (items.foldl settle a) :=
  foldl_settleOnto settle a items

@[simp] theorem settleAll_nil (as : List α) : settleAll key settle as [] = as := rfl

@[simp] theorem settleAll_cons (as : List α) (a : α) (items : List α) :
    settleAll key settle as (a :: items) =
      settleAll key settle (settleInto key settle a as) items := rfl

end Settling

def KeepsKey (key : α → κ) (settle : α → α → α) : Prop :=
  ∀ b a, key b = key a → key (settle b a) = key b

section Laws

variable {κ : Type v} [DecidableEq κ] {key : α → κ} {settle : α → α → α}

theorem map_settleInto (keeps : KeepsKey key settle) (a : α) (as : List α) :
    (settleInto key settle a as).map key = addKey (as.map key) (key a) := by
  induction as with
  | nil => rfl
  | cons b bs ih =>
      rw [settleInto]
      split
      · next same => simp [addKey, keeps b a same, same]
      · next other =>
        rw [List.map_cons, ih, addKey, addKey]
        by_cases known : key a ∈ bs.map key
        · simp [known]
        · simp [known, Ne.symm other]

theorem map_settleAll (keeps : KeepsKey key settle) (as items : List α) :
    (settleAll key settle as items).map key = (items.map key).foldl addKey (as.map key) := by
  induction items generalizing as with
  | nil => rfl
  | cons a items ih =>
      rw [settleAll_cons, ih, map_settleInto keeps, List.map_cons, List.foldl_cons]

theorem nodup_settleAll (keeps : KeepsKey key settle) {as : List α} (items : List α)
    (nodup : (as.map key).Nodup) : ((settleAll key settle as items).map key).Nodup := by
  rw [map_settleAll keeps, foldl_addKey nodup]
  exact nodup_eraseDups _

theorem nodup_settleAll_nil (keeps : KeepsKey key settle) (items : List α) :
    ((settleAll key settle [] items).map key).Nodup :=
  nodup_settleAll keeps items List.nodup_nil

theorem map_settleAll_nil (keeps : KeepsKey key settle) (items : List α) :
    (settleAll key settle [] items).map key = (items.map key).eraseDups := by
  rw [map_settleAll keeps, List.map_nil, foldl_addKey_nil]

theorem find?_settleInto (keeps : KeepsKey key settle) (k : κ) (a : α) (as : List α) :
    (settleInto key settle a as).find? (key · = k) =
      if key a = k then some (settleOnto settle (as.find? (key · = k)) a)
      else as.find? (key · = k) := by
  induction as with
  | nil => by_cases hit : key a = k <;> simp [settleInto, settleOnto, hit]
  | cons b bs ih =>
      rw [settleInto]
      split
      · next same =>
        have kept : key (settle b a) = key b := keeps b a same
        by_cases hit : key a = k
        · simp [kept, same, hit, settleOnto]
        · simp [kept, same, hit]
      · next other =>
        by_cases hit : key b = k
        · have miss : key a ≠ k := fun h => other (hit.trans h.symm)
          simp [hit, miss]
        · simp [hit, ih]

theorem find?_settleAll (keeps : KeepsKey key settle) (k : κ) (as items : List α) :
    (settleAll key settle as items).find? (key · = k) =
      (items.filter (key · = k)).foldl (fun found a => some (settleOnto settle found a))
        (as.find? (key · = k)) := by
  induction items generalizing as with
  | nil => rfl
  | cons a items ih =>
      rw [settleAll_cons, ih, find?_settleInto keeps]
      by_cases hit : key a = k <;> simp [hit]

theorem find?_settleAll_nil (keeps : KeepsKey key settle) (k : κ) (items : List α) :
    (settleAll key settle [] items).find? (key · = k) =
      settled settle (items.filter (key · = k)) :=
  find?_settleAll keeps k [] items

theorem settleInto_of_not_mem {a : α} {as : List α} (absent : key a ∉ as.map key) :
    settleInto key settle a as = as ++ [a] := by
  induction as with
  | nil => rfl
  | cons b bs ih =>
      obtain ⟨head, tail⟩ := not_or.1 (List.mem_cons.not.1 absent)
      rw [settleInto, if_neg (Ne.symm head), ih tail, List.cons_append]

/-- Where keys are distinct, what an item is settled with is known by its key. -/
theorem settleInto_of_mem {a : α} {as : List α} (nodup : (as.map key).Nodup)
    (known : key a ∈ as.map key) :
    settleInto key settle a as = as.map fun b => if key b = key a then settle b a else b := by
  induction as with
  | nil => cases known
  | cons b bs ih =>
      obtain ⟨absent, rest⟩ := List.nodup_cons.1 nodup
      rw [settleInto, List.map_cons]
      by_cases same : key b = key a
      · have others : ∀ c ∈ bs, key c ≠ key a := fun c member equal =>
          absent (List.mem_map.2 ⟨c, member, equal.trans same.symm⟩)
        rw [if_pos same, if_pos same]
        refine congrArg _ ((List.map_id bs).symm.trans (List.map_congr_left fun c member => ?_))
        rw [if_neg (others c member), id]
      · rw [if_neg same, if_neg same, ih rest ((List.mem_cons.1 known).resolve_left (Ne.symm same))]

/-- An item that changes nothing that it is settled with changes no list that has its key. -/
theorem settleInto_of_absorbed {a : α} {as : List α} (absorbed : ∀ b, settle b a = b)
    (known : key a ∈ as.map key) : settleInto key settle a as = as := by
  induction as with
  | nil => cases known
  | cons b bs ih =>
      rw [settleInto]
      split
      · rw [absorbed b]
      · next other => rw [ih ((List.mem_cons.1 known).resolve_left (Ne.symm other))]

theorem settled_of_absorbed (absorbed : ∀ b a, settle b a = b) (items : List α) :
    settled settle items = items.head? := by
  have first : settle = fun b _ => b := funext fun b => funext (absorbed b)
  cases items with
  | nil => rfl
  | cons a items => rw [settled_cons, first, List.foldl_fixed, List.head?_cons]

theorem settleAll_of_nodup {as items : List α} (nodup : ((as ++ items).map key).Nodup) :
    settleAll key settle as items = as ++ items := by
  induction items generalizing as with
  | nil => rw [List.append_nil, settleAll_nil]
  | cons a items ih =>
      have absent : key a ∉ as.map key := by
        intro known
        rw [List.map_append, List.nodup_append] at nodup
        exact nodup.2.2 _ known _ List.mem_cons_self rfl
      rw [List.append_cons] at nodup ⊢
      rw [settleAll_cons, settleInto_of_not_mem absent, ih nodup]

/-! A keyed list is known by its keys in their order and by what stands under each. -/

theorem filter_eq_find?_toList {as : List α} (nodup : (as.map key).Nodup) (k : κ) :
    as.filter (key · = k) = (as.find? (key · = k)).toList := by
  induction as with
  | nil => rfl
  | cons a as ih =>
      obtain ⟨absent, rest⟩ := List.nodup_cons.1 nodup
      by_cases hit : key a = k
      · have none : as.filter (key · = k) = [] := by
          rw [List.filter_eq_nil_iff]
          intro b member same
          exact absent (List.mem_map.2 ⟨b, member, (of_decide_eq_true same).trans hit.symm⟩)
        simp [hit, none]
      · simp [hit, ih rest]

theorem find?_eq_some_of_mem {as : List α} (nodup : (as.map key).Nodup) {a : α}
    (member : a ∈ as) : as.find? (key · = key a) = some a := by
  have kept : a ∈ as.filter (key · = key a) := List.mem_filter.2 ⟨member, by simp⟩
  rw [filter_eq_find?_toList nodup] at kept
  exact Option.mem_toList.1 kept

theorem filterMap_find?_keys {as : List α} (nodup : (as.map key).Nodup) :
    (as.map key).filterMap (fun k => as.find? (key · = k)) = as := by
  rw [List.filterMap_map]
  calc as.filterMap ((fun k => as.find? (key · = k)) ∘ key)
      = as.filterMap some :=
        List.filterMap_congr fun a member => find?_eq_some_of_mem nodup member
    _ = as := List.filterMap_some

theorem eq_of_map_eq_of_find?_eq {as bs : List α} (nodup : (as.map key).Nodup)
    (keys : as.map key = bs.map key)
    (same : ∀ k, as.find? (key · = k) = bs.find? (key · = k)) : as = bs := by
  induction as generalizing bs with
  | nil => exact (List.map_eq_nil_iff.1 keys.symm).symm
  | cons a as ih =>
      cases bs with
      | nil => cases keys
      | cons b bs =>
          obtain ⟨head, tail⟩ := List.cons.inj keys
          have first : a = b := by simpa [head] using same (key a)
          subst first
          obtain ⟨absent, rest⟩ := List.nodup_cons.1 nodup
          refine congrArg (a :: ·) (ih rest tail fun k => ?_)
          by_cases hit : key a = k
          · subst hit
            have missing : ∀ cs : List α, key a ∉ cs.map key →
                cs.find? (key · = key a) = none := by
              intro cs gone
              rw [List.find?_eq_none]
              intro c member equal
              exact gone (List.mem_map.2 ⟨c, member, of_decide_eq_true equal⟩)
            rw [missing as absent, missing bs (tail ▸ absent)]
          · simpa [hit] using same k

/-! Settling rows apart and then together. -/

/-- What two rows of items of one key settle to, from what each of them settles to. -/
def settleBoth (settle : α → α → α) : Option α → Option α → Option α
  | found, none => found
  | found, some a => some (settleOnto settle found a)

/-- On the items of a class, how they are bracketed does not matter. -/
structure AssociatesOn (settle : α → α → α) (Class : α → Prop) : Prop where
  closed : ∀ a b, Class a → Class b → Class (settle a b)
  assoc : ∀ a b c, Class a → Class b → Class c →
    settle (settle a b) c = settle a (settle b c)

theorem AssociatesOn.foldl {Class : α → Prop} (associates : AssociatesOn settle Class)
    {a b : α} {items : List α} (first : Class a) (second : Class b)
    (rest : ∀ c ∈ items, Class c) :
    items.foldl settle (settle a b) = settle a (items.foldl settle b) := by
  induction items generalizing b with
  | nil => rfl
  | cons c items ih =>
      have third : Class c := rest c List.mem_cons_self
      rw [List.foldl_cons, associates.assoc a b c first second third, List.foldl_cons]
      exact ih (associates.closed b c second third)
        fun d member => rest d (List.mem_cons_of_mem c member)

theorem AssociatesOn.class_foldl {Class : α → Prop} (associates : AssociatesOn settle Class)
    {a : α} {items : List α} (first : Class a) (rest : ∀ b ∈ items, Class b) :
    Class (items.foldl settle a) := by
  induction items generalizing a with
  | nil => exact first
  | cons b items ih =>
      exact ih (associates.closed a b first (rest b List.mem_cons_self))
        fun c member => rest c (List.mem_cons_of_mem b member)

/-- Two rows settle together as one, where bracketing does not matter; an item that is alone need
not be of the class. -/
theorem AssociatesOn.settled_append {Class : α → Prop} (associates : AssociatesOn settle Class)
    (items more : List α)
    (several : 1 < (items ++ more).length → ∀ a ∈ items ++ more, Class a) :
    settleBoth settle (settled settle items) (settled settle more) =
      settled settle (items ++ more) := by
  cases items with
  | nil => cases more <;> simp [settleBoth, settleOnto]
  | cons a items =>
      cases more with
      | nil => simp [settleBoth]
      | cons b more =>
          -- Only where both rows have an item does anything meet, and then all are of the class.
          have all : ∀ c ∈ a :: items ++ b :: more, Class c := several (by
            rw [List.length_append, List.length_cons, List.length_cons]
            omega)
          have left : Class (items.foldl settle a) :=
            associates.class_foldl (all a (by simp)) fun c member => all c (by simp [member])
          have right : more.foldl settle (settle (items.foldl settle a) b) =
              settle (items.foldl settle a) (more.foldl settle b) :=
            associates.foldl left (all b (by simp)) fun c member => all c (by simp [member])
          simpa [settleBoth, settleOnto] using right.symm

theorem map_settleAll_settleAll (keeps : KeepsKey key settle) (items more : List α) :
    (settleAll key settle (settleAll key settle [] items) (settleAll key settle [] more)).map key =
      ((items ++ more).map key).eraseDups := by
  rw [map_settleAll keeps, foldl_addKey (nodup_settleAll_nil keeps items)]
  simp only [map_settleAll_nil keeps]
  rw [eraseDups_append_eraseDups, eraseDups_eraseDups_append, List.map_append]

theorem find?_settleAll_settleAll (keeps : KeepsKey key settle) (k : κ) (items more : List α) :
    (settleAll key settle (settleAll key settle [] items)
        (settleAll key settle [] more)).find? (key · = k) =
      settleBoth settle (settled settle (items.filter (key · = k)))
        (settled settle (more.filter (key · = k))) := by
  rw [find?_settleAll keeps, filter_eq_find?_toList (nodup_settleAll_nil keeps more)]
  simp only [find?_settleAll_nil keeps]
  cases settled settle (more.filter (key · = k)) <;> rfl

/-- Items may be settled in two rows first, and the second row then into the first. -/
theorem settleAll_settleAll (keeps : KeepsKey key settle) (items more : List α)
    (together : ∀ k, settleBoth settle (settled settle (items.filter (key · = k)))
        (settled settle (more.filter (key · = k))) =
      settled settle ((items ++ more).filter (key · = k))) :
    settleAll key settle (settleAll key settle [] items) (settleAll key settle [] more) =
      settleAll key settle [] (items ++ more) := by
  apply @eq_of_map_eq_of_find?_eq _ _ _ key
  · exact nodup_settleAll keeps _ (nodup_settleAll_nil keeps items)
  · rw [map_settleAll_settleAll keeps, map_settleAll_nil keeps]
  · intro k
    rw [find?_settleAll_settleAll keeps, together, find?_settleAll_nil keeps]

/-! What settling two items keeps holds of what rows of items settle to. -/

/-- `Holds items a` is to say something of `a` as what comes of `items`. -/
structure KeptBy (settle : α → α → α) (Holds : List α → α → Prop) : Prop where
  alone : ∀ a, Holds [a] a
  both : ∀ items a more b, Holds items a → Holds more b → Holds (items ++ more) (settle a b)

theorem KeptBy.foldl {Holds : List α → α → Prop} (kept : KeptBy settle Holds) {items : List α}
    {a : α} (holds : Holds items a) (more : List α) :
    Holds (items ++ more) (more.foldl settle a) := by
  induction more generalizing items a with
  | nil => rwa [List.append_nil]
  | cons b more ih =>
      rw [List.append_cons]
      exact ih (kept.both items a [b] b holds (kept.alone b))

theorem KeptBy.settled {Holds : List α → α → Prop} (kept : KeptBy settle Holds) {items : List α}
    {a : α} (found : settled settle items = some a) : Holds items a := by
  cases items with
  | nil => cases found
  | cons b items =>
      rw [settled_cons] at found
      exact Option.some.inj found ▸ kept.foldl (kept.alone b) items

theorem KeptBy.settleBoth {Holds : List α → α → Prop} (kept : KeptBy settle Holds)
    {items more : List α} {a : α}
    (found : settleBoth settle (Scaffold.settled settle items) (Scaffold.settled settle more) =
      some a) : Holds (items ++ more) a := by
  cases more with
  | nil => exact (List.append_nil items).symm ▸ kept.settled found
  | cons b more =>
      have second := kept.foldl (kept.alone b) more
      cases items with
      | nil =>
          rw [settled_nil, settled_cons] at found
          exact Option.some.inj found ▸ second
      | cons c items =>
          have first := kept.foldl (kept.alone c) items
          rw [settled_cons, settled_cons] at found
          exact Option.some.inj found ▸ kept.both _ _ _ _ first second

end Laws

end Scaffold
