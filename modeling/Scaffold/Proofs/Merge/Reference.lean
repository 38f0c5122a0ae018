import Scaffold.Proofs.Merge.Bundles

/-!
Merging any number of bundles against a description that keeps no books. Strung together, the files
of all bundles are one row, and what is left of it is said path by path.
-/

namespace Scaffold

open OutputFile

/-- What is left of a row of files: its paths, each once and in the order in which they first occur,
and for each of them the file that is picked from the row. -/
structure OutputFile.Survive (pick : String → List OutputFile → Option OutputFile)
    (row files : List OutputFile) : Prop where
  paths : files.map (·.path) = (row.map (·.path)).eraseDups
  picked : ∀ file ∈ files, pick file.path row = some file

theorem OutputFile.survive_settleAll (strategy : MergeStrategy)
    {pick : String → List OutputFile → Option OutputFile}
    (picks : ∀ path row, settled strategy.settle (row.filter (·.path = path)) = pick path row)
    (row : List OutputFile) :
    Survive pick row (settleAll (·.path) strategy.settle [] row) where
  paths := map_settleAll_nil strategy.keepsPath row
  picked := by
    intro file member
    have distinct : ((settleAll (·.path) strategy.settle [] row).map (·.path)).Nodup :=
      nodup_settleAll strategy.keepsPath row List.nodup_nil
    rw [← picks, ← find?_settleAll_nil strategy.keepsPath]
    exact find?_eq_some_of_mem distinct member

namespace Bundle

def allFiles (bundles : List Bundle) : List OutputFile :=
  bundles.flatMap (·.files)

theorem files_mergeAll (strategy : MergeStrategy) (bundles : List Bundle) :
    (mergeAll strategy bundles).map (·.files) = mergeFiles strategy [] (allFiles bundles) := by
  rw [mergeAll_eq_map]
  change Except.map _ (Except.map _ (mergeFiles strategy [] (allFiles bundles))) = _
  cases mergeFiles strategy [] (allFiles bundles) <;> rfl

theorem mergeAll_of_mergeFiles {strategy : MergeStrategy} {bundles : List Bundle}
    {files : List OutputFile} (merged : mergeFiles strategy [] (allFiles bundles) = .ok files) :
    ∃ b, mergeAll strategy bundles = .ok b ∧ b.files = files := by
  rw [mergeAll_eq_map]
  exact ⟨_, congrArg (Except.map _) merged, rfl⟩

theorem mergeAll_of_mergeFiles_error {strategy : MergeStrategy} {bundles : List Bundle}
    {e : MergeError} (failed : mergeFiles strategy [] (allFiles bundles) = .error e) :
    mergeAll strategy bundles = .error e := by
  rw [mergeAll_eq_map]
  exact congrArg (Except.map _) failed

theorem mergeAll_survive {strategy : MergeStrategy} (lenient : strategy ≠ .error)
    {pick : String → List OutputFile → Option OutputFile}
    (picks : ∀ path row, settled strategy.settle (row.filter (·.path = path)) = pick path row)
    (bundles : List Bundle) :
    ∃ b, mergeAll strategy bundles = .ok b ∧ Survive pick (allFiles bundles) b.files := by
  have empty : (([] : List OutputFile).map (·.path)).Nodup := List.nodup_nil
  obtain ⟨b, merged, files⟩ :=
    mergeAll_of_mergeFiles (mergeFiles_eq_ok lenient empty (allFiles bundles))
  exact ⟨b, merged, files ▸ survive_settleAll strategy picks (allFiles bundles)⟩

theorem mergeAll_error_of_nodup {bundles : List Bundle}
    (distinct : ((allFiles bundles).map (·.path)).Nodup) :
    ∃ b, mergeAll .error bundles = .ok b ∧ b.files = allFiles bundles :=
  mergeAll_of_mergeFiles (mergeFiles_nil_of_nodup .error distinct)

theorem mergeAll_error_of_repeat {bundles : List Bundle}
    (repeated : ¬((allFiles bundles).map (·.path)).Nodup) :
    ∃ before file after, allFiles bundles = before ++ file :: after ∧
      (before.map (·.path)).Nodup ∧ file.path ∈ before.map (·.path) ∧
      mergeAll .error bundles = .error (.fileConflict file.path) := by
  have empty : (([] : List OutputFile).map (·.path)).Nodup := List.nodup_nil
  rcases mergeFiles_error_cases empty (allFiles bundles) with
    ⟨distinct, -⟩ | ⟨before, file, after, split, early, known, failed⟩
  · exact absurd distinct repeated
  · exact ⟨before, file, after, split, early, known, mergeAll_of_mergeFiles_error failed⟩

/-- What merging leaves of files under each strategy. With the later file winning, each path carries
the last file of the row that has it, with the earlier one winning the first; both hold whatever
collides. Where a collision is an error, merging succeeds exactly if no path comes again, changes
nothing then, and else names the first path that does. Dependencies and metadata have no part in
it. -/
theorem mergeAll_leaves (bundles : List Bundle) :
    (∃ b, mergeAll .lastWins bundles = .ok b ∧ Survive lastOf (allFiles bundles) b.files) ∧
    (∃ b, mergeAll .firstWins bundles = .ok b ∧ Survive firstOf (allFiles bundles) b.files) ∧
    ((∃ b, mergeAll .error bundles = .ok b) ↔ ((allFiles bundles).map (·.path)).Nodup) ∧
    (∀ b, mergeAll .error bundles = .ok b → b.files = allFiles bundles) ∧
    (¬((allFiles bundles).map (·.path)).Nodup →
      ∃ before file after, allFiles bundles = before ++ file :: after ∧
        (before.map (·.path)).Nodup ∧ file.path ∈ before.map (·.path) ∧
        mergeAll .error bundles = .error (.fileConflict file.path)) ∧
    ∀ strategy others, allFiles others = allFiles bundles →
      (mergeAll strategy others).map (·.files) = (mergeAll strategy bundles).map (·.files) := by
  have distinct_of_ok : ∀ b, mergeAll .error bundles = .ok b →
      ((allFiles bundles).map (·.path)).Nodup := by
    intro b merged
    by_contra repeated
    obtain ⟨_, _, _, -, -, -, failed⟩ := mergeAll_error_of_repeat repeated
    rw [failed] at merged
    cases merged
  refine ⟨mergeAll_survive (by decide) (fun _ _ => settled_lastWins _) bundles,
    mergeAll_survive (by decide) (fun _ _ => settled_firstWins _) bundles, ⟨?_, ?_⟩, ?_,
    mergeAll_error_of_repeat, ?_⟩
  · rintro ⟨b, merged⟩
    exact distinct_of_ok b merged
  · intro distinct
    obtain ⟨b, merged, -⟩ := mergeAll_error_of_nodup distinct
    exact ⟨b, merged⟩
  · intro b merged
    obtain ⟨c, same, files⟩ := mergeAll_error_of_nodup (distinct_of_ok b merged)
    rw [same] at merged
    exact Except.ok.inj merged ▸ files
  · intro strategy others same
    rw [files_mergeAll, files_mergeAll, same]

end Bundle

end Scaffold
