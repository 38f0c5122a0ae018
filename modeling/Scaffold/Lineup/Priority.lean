import Scaffold.Plugin.Basic

/-!
The order in which plugins of a kind run: ascending priority, and among equals the order of their
registration.
-/

namespace Scaffold

/-- Puts an item in front of the first one that does not rank below it. -/
def insertByRank (rank : α → Int) (a : α) : List α → List α
  | [] => [a]
  | b :: bs => if rank a ≤ rank b then a :: b :: bs else b :: insertByRank rank a bs

def sortByRank (rank : α → Int) : List α → List α
  | [] => []
  | a :: as => insertByRank rank a (sortByRank rank as)

def byPriority (info : α → PluginInfo) (plugins : List α) : List α :=
  sortByRank (fun p => (info p).priority) plugins

theorem insertByRank_perm (rank : α → Int) (a : α) (bs : List α) :
    (insertByRank rank a bs).Perm (a :: bs) := by
  induction bs with
  | nil => exact .refl _
  | cons b bs ih =>
      simp only [insertByRank]
      split
      · exact .refl _
      · exact (ih.cons b).trans (.swap a b bs)

theorem sortByRank_perm (rank : α → Int) (as : List α) : (sortByRank rank as).Perm as := by
  induction as with
  | nil => exact .refl _
  | cons a as ih => exact (insertByRank_perm rank a _).trans (ih.cons a)

end Scaffold
