import Scaffold.Proofs.Merge.Bundles

/-!
Merging two rows of bundles apart and then together does what merging them in one row does, as long
as the versions that meet can be read. The empty bundle is neutral.
-/

namespace Scaffold

open BundleMetadata

namespace Bundle

def mergeAllApart (strategy : MergeStrategy) (bundles more : List Bundle) :
    Except MergeError Bundle := do
  let first ← mergeAll strategy bundles
  let second ← mergeAll strategy more
  merge strategy first second

theorem mergeAllApart_eq_map (strategy : MergeStrategy) (bundles more : List Bundle) :
    mergeAllApart strategy bundles more =
      (mergeFilesApart strategy (bundles.flatMap (·.files)) (more.flatMap (·.files))).map
        fun files =>
          { files
            dependencies := mergeDependencies
              (mergeDependencies [] (bundles.flatMap (·.dependencies)))
              (mergeDependencies [] (more.flatMap (·.dependencies)))
            metadata := mergeOptions (mergeFrom none bundles) (mergeFrom none more) } := by
  unfold mergeAllApart mergeFilesApart
  rw [mergeAll_eq_map, mergeAll_eq_map]
  cases mergeFiles strategy [] (bundles.flatMap (·.files)) with
  | error e => rfl
  | ok first =>
      cases mergeFiles strategy [] (more.flatMap (·.files)) with
      | error e => rfl
      | ok second => exact merge_eq_map strategy _ _

/-- Where the versions that meet can be read, bracketing changes neither files nor dependencies nor
metadata of a merge, nor whether it succeeds; of a failure it may change the path that is named. The
empty bundle changes nothing of what it is merged into, and nothing of a bundle without repetitions
that is merged into it. -/
theorem mergeAll_regroup (strategy : MergeStrategy) :
    (∀ bundles more : List Bundle,
      VersionsReadable ((bundles ++ more).flatMap (·.dependencies)) →
        MergeError.Agree (mergeAll strategy (bundles ++ more))
          (mergeAllApart strategy bundles more)) ∧
    (∀ b : Bundle, merge strategy b empty = .ok b) ∧
    ∀ b : Bundle, b.Distinct → merge strategy empty b = .ok b := by
  refine ⟨?_, merge_empty strategy, fun _ => empty_merge strategy⟩
  intro bundles more readable
  rw [List.flatMap_append] at readable
  rw [mergeAllApart_eq_map, mergeAll_eq_map, List.flatMap_append, List.flatMap_append,
    mergeDependencies_regroup readable, ← mergeFrom_eq, ← mergeFrom_append]
  exact (mergeFiles_agree_mergeFilesApart strategy _ _).map _

/-- A bundle of one file and one package, always the same ones. -/
def sample (content version : String) : Bundle where
  files := [{ path := "index.ts", content }]
  dependencies := [{ name := "zod", version }]

theorem mergeAll_regroup_sample :
    MergeError.Agree (mergeAll .lastWins ([sample "1" "^1.2"] ++ [sample "2" "~1.10"]))
      (mergeAllApart .lastWins [sample "1" "^1.2"] [sample "2" "~1.10"]) := by
  apply (mergeAll_regroup .lastWins).1
  intro name _ d member _
  rcases List.mem_cons.1 member with rfl | member
  · exact ⟨_, rfl⟩
  · rw [List.mem_singleton.1 member]
    exact ⟨_, rfl⟩

end Bundle

end Scaffold
