import Scaffold.Merge.Bundles
import Scaffold.Proofs.Keyed

/-!
What merging leaves of files. With the later or the earlier file winning, files are settled by path;
where a collision is an error, files are strung together up to the first path that comes again.
-/

namespace Scaffold

/-- Which of two files with one path stays, where both are allowed. -/
def MergeStrategy.settle : MergeStrategy → OutputFile → OutputFile → OutputFile
  | .lastWins, _, later => later
  | _, earlier, _ => earlier

theorem MergeStrategy.keepsPath (strategy : MergeStrategy) :
    KeepsKey (·.path) strategy.settle := by
  intro earlier later same
  cases strategy with
  | lastWins => exact same.symm
  | firstWins => rfl
  | error => rfl

theorem MergeStrategy.associates (strategy : MergeStrategy) :
    AssociatesOn strategy.settle fun _ => True where
  closed := fun _ _ _ _ => trivial
  assoc := by
    intro a b c _ _ _
    cases strategy <;> rfl

namespace OutputFile

def firstOf (path : String) (files : List OutputFile) : Option OutputFile :=
  (files.filter (·.path = path)).head?

def lastOf (path : String) (files : List OutputFile) : Option OutputFile :=
  (files.filter (·.path = path)).getLast?

theorem settled_lastWins (files : List OutputFile) :
    settled MergeStrategy.lastWins.settle files = files.getLast? := by
  cases files with
  | nil => rfl
  | cons file files =>
      rw [settled_cons]
      induction files generalizing file with
      | nil => rfl
      | cons next files ih => exact (ih next).trans List.getLast?_cons_cons.symm

theorem settled_firstWins (files : List OutputFile) :
    settled MergeStrategy.firstWins.settle files = files.head? :=
  settled_of_absorbed (fun _ _ => rfl) files

theorem any_path_iff (path : String) (files : List OutputFile) :
    files.any (·.path == path) ↔ path ∈ files.map (·.path) := by
  simp

theorem replaceLast_eq_settleInto {file : OutputFile} {files : List OutputFile}
    (distinct : (files.map (·.path)).Nodup) (known : file.path ∈ files.map (·.path)) :
    file.replaceLast files = settleInto (·.path) MergeStrategy.lastWins.settle file files := by
  induction files with
  | nil => cases known
  | cons f fs ih =>
      obtain ⟨absent, rest⟩ := List.nodup_cons.1 distinct
      by_cases same : f.path = file.path
      · have gone : file.path ∉ fs.map (·.path) := same ▸ absent
        rw [replaceLast, if_neg ((any_path_iff _ _).not.2 gone), if_pos same, settleInto,
          if_pos same]
        rfl
      · have later : file.path ∈ fs.map (·.path) :=
          (List.mem_cons.1 known).resolve_left (Ne.symm same)
        rw [replaceLast, if_pos ((any_path_iff _ _).2 later), settleInto, if_neg same,
          ih rest later]

theorem insertInto_of_not_mem (strategy : MergeStrategy) {file : OutputFile}
    {files : List OutputFile} (absent : file.path ∉ files.map (·.path)) :
    insertInto strategy files file = .ok (files ++ [file]) :=
  if_neg ((any_path_iff _ _).not.2 absent)

theorem insertInto_error_of_mem {file : OutputFile} {files : List OutputFile}
    (known : file.path ∈ files.map (·.path)) :
    insertInto .error files file = .error (.fileConflict file.path) :=
  if_pos ((any_path_iff _ _).2 known)

theorem insertInto_of_strict (strategy : MergeStrategy) {file : OutputFile}
    {files added : List OutputFile} (strict : insertInto .error files file = .ok added) :
    insertInto strategy files file = .ok added := by
  by_cases known : file.path ∈ files.map (·.path)
  · rw [insertInto_error_of_mem known] at strict
    cases strict
  · rw [insertInto_of_not_mem .error known] at strict
    rw [insertInto_of_not_mem strategy known, strict]

theorem insertInto_eq_ok {strategy : MergeStrategy} (lenient : strategy ≠ .error)
    {files : List OutputFile} (distinct : (files.map (·.path)).Nodup) (file : OutputFile) :
    insertInto strategy files file = .ok (settleInto (·.path) strategy.settle file files) := by
  by_cases known : file.path ∈ files.map (·.path)
  · unfold insertInto
    rw [if_pos ((any_path_iff _ _).2 known)]
    cases strategy with
    | lastWins => exact congrArg Except.ok (replaceLast_eq_settleInto distinct known)
    | firstWins => exact congrArg Except.ok (settleInto_of_absorbed (fun _ => rfl) known).symm
    | error => exact absurd rfl lenient
  · rw [insertInto_of_not_mem strategy known, settleInto_of_not_mem known]

end OutputFile

open OutputFile

theorem mergeFiles_cons (strategy : MergeStrategy) (files : List OutputFile) (file : OutputFile)
    (later : List OutputFile) :
    mergeFiles strategy files (file :: later) =
      (insertInto strategy files file).bind (mergeFiles strategy · later) :=
  List.foldlM_cons

theorem mergeFiles_of_strict (strategy : MergeStrategy) {files later merged : List OutputFile}
    (strict : mergeFiles .error files later = .ok merged) :
    mergeFiles strategy files later = .ok merged := by
  induction later generalizing files with
  | nil => exact strict
  | cons file later ih =>
      rw [mergeFiles_cons] at strict ⊢
      cases first : insertInto .error files file with
      | error e =>
          rw [first] at strict
          cases strict
      | ok added =>
          rw [first] at strict
          rw [insertInto_of_strict strategy first]
          exact ih strict

theorem mergeFiles_append (strategy : MergeStrategy) (files later more : List OutputFile) :
    mergeFiles strategy files (later ++ more) =
      (mergeFiles strategy files later).bind (mergeFiles strategy · more) :=
  List.foldlM_append

/-- Unless a collision is an error, files always merge, and each path is settled for itself. -/
theorem mergeFiles_eq_ok {strategy : MergeStrategy} (lenient : strategy ≠ .error)
    {files : List OutputFile} (distinct : (files.map (·.path)).Nodup) (later : List OutputFile) :
    mergeFiles strategy files later =
      .ok (settleAll (·.path) strategy.settle files later) := by
  induction later generalizing files with
  | nil => rfl
  | cons file later ih =>
      have next : ((settleInto (·.path) strategy.settle file files).map (·.path)).Nodup :=
        nodup_settleAll strategy.keepsPath [file] distinct
      rw [mergeFiles_cons, insertInto_eq_ok lenient distinct, settleAll_cons]
      exact ih next

theorem mergeFiles_of_nodup (strategy : MergeStrategy) {files later : List OutputFile}
    (distinct : ((files ++ later).map (·.path)).Nodup) :
    mergeFiles strategy files later = .ok (files ++ later) := by
  induction later generalizing files with
  | nil => rw [List.append_nil]; rfl
  | cons file later ih =>
      have absent : file.path ∉ files.map (·.path) := by
        intro known
        rw [List.map_append, List.nodup_append] at distinct
        exact distinct.2.2 _ known _ List.mem_cons_self rfl
      rw [List.append_cons] at distinct ⊢
      rw [mergeFiles_cons, insertInto_of_not_mem strategy absent]
      exact ih distinct

theorem mergeFiles_nil_of_nodup (strategy : MergeStrategy) {files : List OutputFile}
    (distinct : (files.map (·.path)).Nodup) : mergeFiles strategy [] files = .ok files :=
  mergeFiles_of_nodup strategy distinct

theorem mergeFiles_error_of_repeat {files before : List OutputFile} {file : OutputFile}
    (distinct : ((files ++ before).map (·.path)).Nodup)
    (known : file.path ∈ (files ++ before).map (·.path)) (after : List OutputFile) :
    mergeFiles .error files (before ++ file :: after) = .error (.fileConflict file.path) := by
  rw [mergeFiles_append, mergeFiles_of_nodup .error distinct]
  change mergeFiles .error (files ++ before) (file :: after) = _
  rw [mergeFiles_cons, insertInto_error_of_mem known]
  rfl

theorem mergeFiles_error_cases {files : List OutputFile} (distinct : (files.map (·.path)).Nodup)
    (later : List OutputFile) :
    ((files ++ later).map (·.path)).Nodup ∧
        mergeFiles .error files later = .ok (files ++ later) ∨
      ∃ before file after, later = before ++ file :: after ∧
        ((files ++ before).map (·.path)).Nodup ∧
        file.path ∈ (files ++ before).map (·.path) ∧
        mergeFiles .error files later = .error (.fileConflict file.path) := by
  by_cases unique : ((files ++ later).map (·.path)).Nodup
  · exact .inl ⟨unique, mergeFiles_of_nodup .error unique⟩
  · obtain ⟨before, file, after, rfl, early, known⟩ :=
      exists_first_repeat OutputFile.path distinct unique
    exact .inr ⟨before, file, after, rfl, early, known,
      mergeFiles_error_of_repeat early known after⟩

theorem mergeFiles_eq_error_cases {strategy : MergeStrategy} {files later : List OutputFile}
    {e : MergeError} (distinct : (files.map (·.path)).Nodup)
    (failed : mergeFiles strategy files later = .error e) :
    strategy = .error ∧ ∃ before file after, later = before ++ file :: after ∧
      ((files ++ before).map (·.path)).Nodup ∧ file.path ∈ (files ++ before).map (·.path) ∧
      e = .fileConflict file.path := by
  by_cases strict : strategy = .error
  · subst strict
    rcases mergeFiles_error_cases distinct later with
      ⟨-, fine⟩ | ⟨before, file, after, split, early, known, conflict⟩
    · rw [fine] at failed
      cases failed
    · rw [conflict] at failed
      cases failed
      exact ⟨rfl, before, file, after, split, early, known, rfl⟩
  · rw [mergeFiles_eq_ok strict distinct] at failed
    cases failed

theorem nodup_mergeFiles {strategy : MergeStrategy} {files later merged : List OutputFile}
    (distinct : (files.map (·.path)).Nodup)
    (result : mergeFiles strategy files later = .ok merged) : (merged.map (·.path)).Nodup := by
  by_cases strict : strategy = .error
  · subst strict
    rcases mergeFiles_error_cases distinct later with
      ⟨unique, ok⟩ | ⟨before, file, after, -, -, -, failed⟩
    · rw [ok] at result
      exact Except.ok.inj result ▸ unique
    · rw [failed] at result
      cases result
  · rw [mergeFiles_eq_ok strict distinct] at result
    exact Except.ok.inj result ▸ nodup_settleAll strategy.keepsPath later distinct

/-- Two results agree: both are the same, or both are a collision of whatever path. -/
def MergeError.Agree (first second : Except MergeError α) : Prop :=
  (∃ a, first = .ok a ∧ second = .ok a) ∨
    ∃ path other, first = .error (.fileConflict path) ∧ second = .error (.fileConflict other)

theorem MergeError.Agree.map {first second : Except MergeError α} (agree : Agree first second)
    (f : α → β) : Agree (first.map f) (second.map f) := by
  rcases agree with ⟨a, rfl, rfl⟩ | ⟨path, other, rfl, rfl⟩
  · exact .inl ⟨f a, rfl, rfl⟩
  · exact .inr ⟨path, other, rfl, rfl⟩

def mergeFilesApart (strategy : MergeStrategy) (files more : List OutputFile) :
    Except MergeError (List OutputFile) :=
  (mergeFiles strategy [] files).bind fun first =>
    (mergeFiles strategy [] more).bind (mergeFiles strategy first)

theorem mergeFilesApart_lenient {strategy : MergeStrategy} (lenient : strategy ≠ .error)
    (files more : List OutputFile) :
    mergeFilesApart strategy files more = mergeFiles strategy [] (files ++ more) := by
  have empty : (([] : List OutputFile).map (·.path)).Nodup := List.nodup_nil
  have distinct : ((settleAll (·.path) strategy.settle [] files).map (·.path)).Nodup :=
    nodup_settleAll strategy.keepsPath files empty
  have together := settleAll_settleAll strategy.keepsPath files more fun path => by
    rw [List.filter_append]
    exact strategy.associates.settled_append _ _ fun _ _ _ => trivial
  rw [mergeFilesApart, mergeFiles_eq_ok lenient empty, mergeFiles_eq_ok lenient empty,
    mergeFiles_eq_ok lenient empty, ← together]
  exact mergeFiles_eq_ok lenient distinct _

theorem mergeFilesApart_error (files more : List OutputFile) :
    MergeError.Agree (mergeFiles .error [] (files ++ more))
      (mergeFilesApart .error files more) := by
  have empty : (([] : List OutputFile).map (·.path)).Nodup := List.nodup_nil
  rcases mergeFiles_error_cases empty (files ++ more) with
    ⟨unique, whole⟩ | ⟨before, file, after, split, early, known, whole⟩
  · have parts := unique
    rw [List.nil_append, List.map_append, List.nodup_append] at parts
    have first := mergeFiles_nil_of_nodup .error parts.1
    have second := mergeFiles_nil_of_nodup .error parts.2.1
    refine .inl ⟨files ++ more, whole, ?_⟩
    rw [mergeFilesApart, first, second]
    exact mergeFiles_of_nodup .error unique
  · have repeated : ¬((files ++ more).map (·.path)).Nodup := by
      intro unique
      rw [split, List.append_cons, List.map_append, List.map_append, List.map_singleton,
        ← List.concat_eq_append] at unique
      exact ((List.nodup_concat _ _).1 (List.nodup_append.1 unique).1).1 known
    refine .inr ?_
    -- A path comes again within one of the rows, or only where they meet.
    rcases mergeFiles_error_cases empty files with
      ⟨uniqueFirst, first⟩ | ⟨-, other, -, -, -, -, first⟩
    · rcases mergeFiles_error_cases empty more with
        ⟨-, second⟩ | ⟨-, other, -, -, -, -, second⟩
      · rcases mergeFiles_error_cases uniqueFirst more with
          ⟨unique, -⟩ | ⟨-, other, -, -, -, -, both⟩
        · exact absurd unique repeated
        · exact ⟨file.path, other.path, whole, by rw [mergeFilesApart, first, second]; exact both⟩
      · exact ⟨file.path, other.path, whole, by rw [mergeFilesApart, first, second]; rfl⟩
    · exact ⟨file.path, other.path, whole, by rw [mergeFilesApart, first]; rfl⟩

theorem mergeFiles_agree_mergeFilesApart (strategy : MergeStrategy)
    (files more : List OutputFile) :
    MergeError.Agree (mergeFiles strategy [] (files ++ more))
      (mergeFilesApart strategy files more) := by
  by_cases strict : strategy = .error
  · exact strict ▸ mergeFilesApart_error files more
  · have empty : (([] : List OutputFile).map (·.path)).Nodup := List.nodup_nil
    rw [mergeFilesApart_lenient strict]
    exact .inl ⟨_, mergeFiles_eq_ok strict empty _, mergeFiles_eq_ok strict empty _⟩

end Scaffold
