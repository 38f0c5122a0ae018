import Mathlib.Data.List.Sort
import Scaffold.Lineup.Basic

/-!
The order in which plugins of a kind run is the stable one: ascending priority, and among equals the
order of their registration.
-/

namespace Scaffold

/-- The items of `as` in ascending rank, those of each rank in the order in which they stand
there. -/
structure StablySorted (rank : α → Int) (as sorted : List α) : Prop where
  perm : sorted.Perm as
  ascending : sorted.Pairwise fun a b => rank a ≤ rank b
  stable : ∀ r, sorted.filter (rank · = r) = as.filter (rank · = r)

theorem insertByRank_eq_orderedInsert (rank : α → Int) (a : α) (bs : List α) :
    insertByRank rank a bs = bs.orderedInsert (fun a b => rank a ≤ rank b) a := by
  induction bs with
  | nil => rfl
  | cons b bs ih => rw [insertByRank, List.orderedInsert_cons, ih]

theorem sortByRank_eq_insertionSort (rank : α → Int) (as : List α) :
    sortByRank rank as = as.insertionSort fun a b => rank a ≤ rank b := by
  induction as with
  | nil => rfl
  | cons a as ih =>
      rw [sortByRank, insertByRank_eq_orderedInsert, ih, List.insertionSort_cons]

theorem filter_insertByRank (rank : α → Int) (a : α) (bs : List α) (r : Int) :
    (insertByRank rank a bs).filter (rank · = r) = (a :: bs).filter (rank · = r) := by
  induction bs with
  | nil => rfl
  | cons b bs ih =>
      rw [insertByRank]
      split
      · rfl
      · next notBelow =>
        rw [List.filter_cons, ih]
        by_cases first : rank a = r
        · have passed : rank b ≠ r := by omega
          simp [first, passed]
        · simp [first, List.filter_cons]

theorem stablySorted_sortByRank (rank : α → Int) (as : List α) :
    StablySorted rank as (sortByRank rank as) where
  perm := sortByRank_perm rank as
  ascending := by
    rw [sortByRank_eq_insertionSort]
    exact List.pairwise_insertionSort _ as
  stable := by
    intro r
    induction as with
    | nil => rfl
    | cons a as ih =>
        rw [sortByRank, filter_insertByRank, List.filter_cons, List.filter_cons, ih]

theorem sortByRank_eq_of_perm {rank : α → Int} {as bs : List α} (perm : as.Perm bs)
    (distinct : (as.map rank).Nodup) : sortByRank rank as = sortByRank rank bs := by
  have first := stablySorted_sortByRank rank as
  have second := stablySorted_sortByRank rank bs
  have same : (sortByRank rank as).Perm (sortByRank rank bs) :=
    first.perm.trans (perm.trans second.perm.symm)
  refine same.eq_of_pairwise ?_ first.ascending second.ascending
  intro a b left right below above
  exact List.inj_on_of_nodup_map distinct (first.perm.mem_iff.1 left)
    (perm.mem_iff.2 (second.perm.mem_iff.1 right)) (le_antisymm below above)

namespace Lineup

theorem stablySorted_orderedGenerators (l : Lineup) :
    StablySorted (·.info.priority) l.generators l.orderedGenerators :=
  stablySorted_sortByRank _ l.generators

theorem stablySorted_orderedAuth (l : Lineup) :
    StablySorted (·.info.priority) l.auth l.orderedAuth :=
  stablySorted_sortByRank _ l.auth

theorem stablySorted_orderedDeploy (l : Lineup) :
    StablySorted (·.info.priority) l.deploy l.orderedDeploy :=
  stablySorted_sortByRank _ l.deploy

end Lineup

end Scaffold
