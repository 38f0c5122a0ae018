import Scaffold.Dict

/-!
JSON trees. A tree keeps what a text says, members in their order and repeated keys included; a
`Json.Value` is a tree in normal form, with the members of every object sorted and each key once.
-/

namespace Scaffold

/-- A JSON tree. `unreadable` stands for a token that is well formed and denotes no value: a number
beyond the doubles, an unpaired surrogate, nesting past the limit. It does no harm where nobody
reads it. -/
inductive Json where
  | null
  | bool (value : Bool)
  | integer (value : Int)
  | float (value : Float)
  | string (value : String)
  | array (items : List Json)
  | object (members : List (String × Json))
  | unreadable
  deriving Inhabited

namespace Json

mutual

/-- Equality of trees; floats compare as numbers. -/
def beq : Json → Json → Bool
  | .null, .null => true
  | .bool a, .bool b => a == b
  | .integer a, .integer b => a == b
  | .float a, .float b => a == b
  | .string a, .string b => a == b
  | .array a, .array b => beqItems a b
  | .object a, .object b => beqMembers a b
  | _, _ => false

def beqItems : List Json → List Json → Bool
  | [], [] => true
  | a :: as, b :: bs => beq a b && beqItems as bs
  | _, _ => false

def beqMembers : List (String × Json) → List (String × Json) → Bool
  | [], [] => true
  | (k, a) :: as, (l, b) :: bs => k == l && beq a b && beqMembers as bs
  | _, _ => false

end

instance : BEq Json := ⟨beq⟩

def isNull : Json → Bool
  | .null => true
  | _ => false

mutual

def depth : Json → Nat
  | .array items => depthItems items + 1
  | .object members => depthMembers members + 1
  | _ => 1

def depthItems : List Json → Nat
  | [] => 0
  | item :: items => max (depth item) (depthItems items)

def depthMembers : List (String × Json) → Nat
  | [] => 0
  | (_, value) :: members => max (depth value) (depthMembers members)

end

mutual

def readable : Json → Bool
  | .array items => readableItems items
  | .object members => readableMembers members
  | .unreadable => false
  | _ => true

def readableItems : List Json → Bool
  | [] => true
  | item :: items => readable item && readableItems items

def readableMembers : List (String × Json) → Bool
  | [] => true
  | (_, value) :: members => readable value && readableMembers members

end

mutual

/-- Sorts the members of every object; of members with one key the last counts. -/
def canonical : Json → Json
  | .array items => .array (canonicalItems items)
  | .object members => .object (sortEntries (canonicalMembers members))
  | j => j

def canonicalItems : List Json → List Json
  | [] => []
  | item :: items => canonical item :: canonicalItems items

def canonicalMembers : List (String × Json) → List (String × Json)
  | [] => []
  | (key, value) :: members => (key, canonical value) :: canonicalMembers members

end

mutual

/-- Every object's keys increase and every token denotes a value. -/
def Normal : Json → Prop
  | .array items => NormalItems items
  | .object members => KeysIncrease members ∧ NormalMembers members
  | .unreadable => False
  | _ => True

def NormalItems : List Json → Prop
  | [] => True
  | item :: items => Normal item ∧ NormalItems items

def NormalMembers : List (String × Json) → Prop
  | [] => True
  | (_, value) :: members => Normal value ∧ NormalMembers members

end

theorem normalMembers_iff {members : List (String × Json)} :
    NormalMembers members ↔ ∀ m ∈ members, m.2.Normal := by
  induction members with
  | nil => simp [NormalMembers]
  | cons m members ih => simp [NormalMembers, ih]

theorem normalMembers_insertEntry {key : String} {value : Json} {members : List (String × Json)}
    (hv : value.Normal) (h : NormalMembers members) :
    NormalMembers (insertEntry key value members) := by
  rw [normalMembers_iff] at h ⊢
  intro m hm
  rcases mem_insertEntry hm with rfl | hm
  · exact hv
  · exact h m hm

theorem normalMembers_sortEntries {members : List (String × Json)} (h : NormalMembers members) :
    NormalMembers (sortEntries members) := by
  suffices ∀ sorted : List (String × Json), NormalMembers sorted →
      NormalMembers (members.foldl (fun sorted e => insertEntry e.1 e.2 sorted) sorted) from
    this [] trivial
  induction members with
  | nil => exact fun _ hs => hs
  | cons m members ih => exact fun _ hs => ih h.2 _ (normalMembers_insertEntry h.1 hs)

mutual

theorem normal_canonical : (j : Json) → j.readable → j.canonical.Normal
  | .null, _ | .bool _, _ | .integer _, _ | .float _, _ | .string _, _ => trivial
  | .array items, h => normalItems_canonicalItems items h
  | .object members, h =>
      ⟨keysIncrease_sortEntries _,
        normalMembers_sortEntries (normalMembers_canonicalMembers members h)⟩

theorem normalItems_canonicalItems :
    (items : List Json) → readableItems items → NormalItems (canonicalItems items)
  | [], _ => trivial
  | item :: items, h =>
      have h := Bool.and_eq_true_iff.1 h
      ⟨normal_canonical item h.1, normalItems_canonicalItems items h.2⟩

theorem normalMembers_canonicalMembers :
    (members : List (String × Json)) → readableMembers members →
      NormalMembers (canonicalMembers members)
  | [], _ => trivial
  | (_, value) :: members, h =>
      have h := Bool.and_eq_true_iff.1 h
      ⟨normal_canonical value h.1, normalMembers_canonicalMembers members h.2⟩

end

/-- A tree in normal form: two of them are equal when they say the same. -/
structure Value where
  tree : Json
  normal : tree.Normal

namespace Value

def null : Value := ⟨.null, trivial⟩

instance : Inhabited Value := ⟨null⟩
instance : BEq Value := ⟨fun a b => a.tree == b.tree⟩

def ofJson? (j : Json) : Option Value :=
  if h : j.readable then some ⟨j.canonical, normal_canonical j h⟩ else none

end Value

end Json

end Scaffold
