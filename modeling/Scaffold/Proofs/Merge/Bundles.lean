import Scaffold.Proofs.Dict
import Scaffold.Proofs.Merge.Dependencies
import Scaffold.Proofs.Merge.Files

/-!
What merging leaves of bundles: files, dependencies and metadata are merged each for themselves, and
only files can collide. In a bundle that comes out of a merge no path and no package stands twice.
-/

namespace Scaffold

def BundleMetadata.mergeFrom (start : Option BundleMetadata) (bundles : List Bundle) :
    Option BundleMetadata :=
  bundles.foldl (fun metadata b => mergeOptions metadata b.metadata) start

namespace BundleMetadata

theorem merge_assoc (a b c : BundleMetadata) : (a.merge b).merge c = a.merge (b.merge c) := by
  unfold merge
  simp only [List.append_assoc, Dict.union_assoc, mk.injEq, and_true]
  cases c.generatedAt <;> rfl

theorem mergeOptions_none (m : Option BundleMetadata) : mergeOptions m none = m := by
  cases m <;> rfl

theorem mergeOptions_assoc (a b c : Option BundleMetadata) :
    mergeOptions (mergeOptions a b) c = mergeOptions a (mergeOptions b c) := by
  cases a with
  | none => rfl
  | some a =>
      cases b with
      | none => rfl
      | some b =>
          cases c with
          | none => rfl
          | some c => exact congrArg some (merge_assoc a b c)

theorem mergeFrom_eq (start : Option BundleMetadata) (bundles : List Bundle) :
    mergeFrom start bundles = mergeOptions start (mergeFrom none bundles) := by
  induction bundles generalizing start with
  | nil => exact (mergeOptions_none start).symm
  | cons b bundles ih =>
      change mergeFrom (mergeOptions start b.metadata) bundles =
        mergeOptions start (mergeFrom (mergeOptions none b.metadata) bundles)
      rw [ih, ih (mergeOptions none b.metadata), mergeOptions_assoc]
      rfl

theorem mergeFrom_append (start : Option BundleMetadata) (bundles more : List Bundle) :
    mergeFrom start (bundles ++ more) = mergeFrom (mergeFrom start bundles) more :=
  List.foldl_append

end BundleMetadata

open BundleMetadata

theorem bind_eq_ok_iff {r : Except ε α} {f : α → Except ε β} {b : β} :
    r >>= f = .ok b ↔ ∃ a, r = .ok a ∧ f a = .ok b := by
  cases r <;> simp [bind, Except.bind]

namespace Bundle

/-- No path and no package stands twice. -/
structure Distinct (b : Bundle) : Prop where
  paths : (b.files.map (·.path)).Nodup
  names : (b.dependencies.map (·.name)).Nodup

theorem distinct_empty : empty.Distinct :=
  ⟨List.nodup_nil, List.nodup_nil⟩

theorem merge_eq_map (strategy : MergeStrategy) (earlier later : Bundle) :
    merge strategy earlier later =
      (mergeFiles strategy earlier.files later.files).map fun files =>
        { files
          dependencies := mergeDependencies earlier.dependencies later.dependencies
          metadata := mergeOptions earlier.metadata later.metadata } := by
  unfold merge
  cases mergeFiles strategy earlier.files later.files <;> rfl

theorem merge_of_strict (strategy : MergeStrategy) {earlier later merged : Bundle}
    (strict : merge .error earlier later = .ok merged) :
    merge strategy earlier later = .ok merged := by
  rw [merge_eq_map] at strict ⊢
  cases files : mergeFiles .error earlier.files later.files with
  | error e =>
      rw [files] at strict
      cases strict
  | ok kept =>
      rw [files] at strict
      rw [mergeFiles_of_strict strategy files, strict]

theorem merge_eq_error_iff {strategy : MergeStrategy} {earlier later : Bundle}
    {e : MergeError} :
    merge strategy earlier later = .error e ↔
      mergeFiles strategy earlier.files later.files = .error e := by
  rw [merge_eq_map]
  cases mergeFiles strategy earlier.files later.files <;> simp [Except.map]

theorem foldlM_merge_singleton (strategy : MergeStrategy) (start b : Bundle) :
    [b].foldlM (merge strategy) start = merge strategy start b :=
  bind_pure (merge strategy start b)

/-- Merging bundles one after the other merges each part of them in one row. -/
theorem foldlM_merge (strategy : MergeStrategy) (start : Bundle) (bundles : List Bundle) :
    bundles.foldlM (merge strategy) start =
      (mergeFiles strategy start.files (bundles.flatMap (·.files))).map fun files =>
        { files
          dependencies :=
            mergeDependencies start.dependencies (bundles.flatMap (·.dependencies))
          metadata := mergeFrom start.metadata bundles } := by
  induction bundles generalizing start with
  | nil => rfl
  | cons b bundles ih =>
      rw [List.foldlM_cons, merge_eq_map, List.flatMap_cons, List.flatMap_cons,
        mergeFiles_append]
      cases mergeFiles strategy start.files b.files with
      | error e => rfl
      | ok files =>
          rw [mergeDependencies_append]
          exact ih _

theorem foldlM_merge_cons_eq_ok_iff {strategy : MergeStrategy} {start b final : Bundle}
    {bundles : List Bundle} :
    (b :: bundles).foldlM (merge strategy) start = .ok final ↔
      ∃ next, merge strategy start b = .ok next ∧
        bundles.foldlM (merge strategy) next = .ok final := by
  rw [List.foldlM_cons]
  exact bind_eq_ok_iff

theorem foldlM_merge_append_eq_ok_iff {strategy : MergeStrategy} {start final : Bundle}
    {bundles more : List Bundle} :
    (bundles ++ more).foldlM (merge strategy) start = .ok final ↔
      ∃ middle, bundles.foldlM (merge strategy) start = .ok middle ∧
        more.foldlM (merge strategy) middle = .ok final := by
  rw [List.foldlM_append]
  exact bind_eq_ok_iff

theorem mergeAll_eq_map (strategy : MergeStrategy) (bundles : List Bundle) :
    mergeAll strategy bundles =
      (mergeFiles strategy [] (bundles.flatMap (·.files))).map fun files =>
        { files
          dependencies := mergeDependencies [] (bundles.flatMap (·.dependencies))
          metadata := mergeFrom none bundles } :=
  foldlM_merge strategy empty bundles

theorem dependencies_of_mergeAll {strategy : MergeStrategy} {bundles : List Bundle} {b : Bundle}
    (merged : mergeAll strategy bundles = .ok b) :
    b.dependencies = mergeDependencies [] (bundles.flatMap (·.dependencies)) := by
  rw [mergeAll_eq_map] at merged
  cases files : mergeFiles strategy [] (bundles.flatMap (·.files)) with
  | error e =>
      rw [files] at merged
      cases merged
  | ok kept =>
      rw [files] at merged
      cases merged
      rfl

theorem mergeAll_append_eq_ok_iff {strategy : MergeStrategy} {final : Bundle}
    {bundles more : List Bundle} :
    mergeAll strategy (bundles ++ more) = .ok final ↔
      ∃ middle, mergeAll strategy bundles = .ok middle ∧
        more.foldlM (merge strategy) middle = .ok final :=
  foldlM_merge_append_eq_ok_iff

theorem mergeAll_append_of_ok {strategy : MergeStrategy} {bundles : List Bundle} {middle : Bundle}
    (merged : mergeAll strategy bundles = .ok middle) (more : List Bundle) :
    mergeAll strategy (bundles ++ more) = more.foldlM (merge strategy) middle := by
  unfold mergeAll at merged ⊢
  rw [List.foldlM_append, merged]
  rfl

theorem distinct_merge {strategy : MergeStrategy} {earlier later merged : Bundle}
    (distinct : earlier.Distinct) (result : merge strategy earlier later = .ok merged) :
    merged.Distinct := by
  rw [merge_eq_map] at result
  cases files : mergeFiles strategy earlier.files later.files with
  | error e =>
      rw [files] at result
      cases result
  | ok kept =>
      rw [files] at result
      cases result
      exact ⟨nodup_mergeFiles distinct.paths files,
        nodup_mergeDependencies later.dependencies distinct.names⟩

theorem distinct_foldlM {strategy : MergeStrategy} {start merged : Bundle} {bundles : List Bundle}
    (distinct : start.Distinct) (result : bundles.foldlM (merge strategy) start = .ok merged) :
    merged.Distinct := by
  induction bundles generalizing start with
  | nil => exact Except.ok.inj result ▸ distinct
  | cons b bundles ih =>
      obtain ⟨next, merged, rest⟩ := foldlM_merge_cons_eq_ok_iff.1 result
      exact ih (distinct_merge distinct merged) rest

theorem distinct_mergeAll {strategy : MergeStrategy} {bundles : List Bundle} {merged : Bundle}
    (result : mergeAll strategy bundles = .ok merged) : merged.Distinct :=
  distinct_foldlM distinct_empty result

theorem merge_empty (strategy : MergeStrategy) (b : Bundle) : merge strategy b empty = .ok b := by
  rw [merge_eq_map]
  change Except.ok { b with metadata := mergeOptions b.metadata none } = _
  rw [mergeOptions_none]

theorem empty_merge (strategy : MergeStrategy) {b : Bundle} (distinct : b.Distinct) :
    merge strategy empty b = .ok b := by
  rw [merge_eq_map]
  change (mergeFiles strategy [] b.files).map _ = _
  rw [mergeFiles_nil_of_nodup strategy distinct.paths]
  change Except.ok { b with dependencies := mergeDependencies [] b.dependencies } = _
  rw [mergeDependencies_nil_of_nodup distinct.names]

theorem mergeAll_cons_of_distinct (strategy : MergeStrategy) {b : Bundle} (distinct : b.Distinct)
    (bundles : List Bundle) :
    mergeAll strategy (b :: bundles) = bundles.foldlM (merge strategy) b := by
  unfold mergeAll
  rw [List.foldlM_cons, empty_merge strategy distinct]
  rfl

end Bundle

end Scaffold
