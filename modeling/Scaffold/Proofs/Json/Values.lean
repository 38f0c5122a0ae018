import Scaffold.Json.Codec
import Scaffold.Proofs.Dict

/-!
Trees in normal form: all of such a tree can be read, and it is its own canonical form. So the tree of
a value reads back as the value.
-/

namespace Scaffold.Json

mutual

theorem readable_of_normal : (j : Json) → j.Normal → j.readable
  | .null, _ | .bool _, _ | .integer _, _ | .float _, _ | .string _, _ => rfl
  | .array items, normal => readableItems_of_normal items normal
  | .object members, normal => readableMembers_of_normal members normal.2

theorem readableItems_of_normal : (items : List Json) → NormalItems items → readableItems items
  | [], _ => rfl
  | item :: items, normal =>
      Bool.and_eq_true_iff.2
        ⟨readable_of_normal item normal.1, readableItems_of_normal items normal.2⟩

theorem readableMembers_of_normal :
    (members : List (String × Json)) → NormalMembers members → readableMembers members
  | [], _ => rfl
  | (_, value) :: members, normal =>
      Bool.and_eq_true_iff.2
        ⟨readable_of_normal value normal.1, readableMembers_of_normal members normal.2⟩

end

mutual

theorem canonical_of_normal : (j : Json) → j.Normal → j.canonical = j
  | .null, _ | .bool _, _ | .integer _, _ | .float _, _ | .string _, _ => rfl
  | .array items, normal => congrArg Json.array (canonicalItems_of_normal items normal)
  | .object members, normal => by
      rw [canonical, canonicalMembers_of_normal members normal.2, sortEntries_eq_self normal.1]

theorem canonicalItems_of_normal :
    (items : List Json) → NormalItems items → canonicalItems items = items
  | [], _ => rfl
  | item :: items, normal => by
      rw [canonicalItems, canonical_of_normal item normal.1,
        canonicalItems_of_normal items normal.2]

theorem canonicalMembers_of_normal :
    (members : List (String × Json)) → NormalMembers members →
      canonicalMembers members = members
  | [], _ => rfl
  | (key, value) :: members, normal => by
      rw [canonicalMembers, canonical_of_normal value normal.1,
        canonicalMembers_of_normal members normal.2]

end

theorem Value.ofJson?_tree (v : Value) : Value.ofJson? v.tree = some v := by
  obtain ⟨tree, normal⟩ := v
  unfold Value.ofJson?
  rw [dif_pos (readable_of_normal tree normal)]
  simp only [canonical_of_normal tree normal]

end Scaffold.Json
