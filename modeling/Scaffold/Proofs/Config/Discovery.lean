import Scaffold.Config.File
import Scaffold.Proofs.Config.Entries
import Scaffold.Proofs.FileTree.Tidy

/-!
Finding the configuration that a directory belongs to. Where below a directory the search starts
makes no difference, as long as no other configuration lies on the way. What is found is seen from the
directory of its file for good.
-/

namespace Scaffold.Config

open Scaffold.Path (IsName ancestors below isAbsolute join parent? tidy)

variable {t : FileTree} {c : Config} {dir start other path n : String} {names : List String}

/-- On the way from a directory down along some names no directory but the first has a configuration
file. A directory of that name is none. -/
def ClearBelow (t : FileTree) (dir : String) (names : List String) : Prop :=
  ∀ inner, inner ≠ [] → inner <+: names → t.isFile (join (below dir inner) fileName) = false

instance : Decidable (ClearBelow t dir names) :=
  decidable_of_iff
    (∀ inner ∈ names.inits, inner ≠ [] → t.isFile (join (below dir inner) fileName) = false)
    ⟨fun clear inner filled first => clear inner ((List.mem_inits _ _).2 first) filled,
      fun clear inner member filled => clear inner filled ((List.mem_inits _ _).1 member)⟩

/-- Two searches come to the same: a configuration and its path, a file that cannot be used, or
nothing to be found from their starts. -/
inductive SameOutcome (SamePath : String → String → Prop) (start other : String) :
    Except ConfigError (Config × String) → Except ConfigError (Config × String) → Prop where
  | found (c : Config) {path path' : String} (same : SamePath path path') :
      SameOutcome SamePath start other (.ok (c, path)) (.ok (c, path'))
  | unusable {e : ConfigError} (present : ∀ dir, e ≠ .notFound dir) :
      SameOutcome SamePath start other (.error e) (.error e)
  | notFound :
      SameOutcome SamePath start other (.error (.notFound start)) (.error (.notFound other))

theorem isName_fileName : IsName fileName := by
  decide

/-! The file that is found. -/

theorem locate_eq (absolute : isAbsolute start) :
    locate t start =
      if t.isFile (join start fileName) then some (join start fileName)
      else (parent? start).bind (locate t) := by
  rw [locate, Path.ancestors_eq_cons absolute, List.map_cons, List.find?_cons]
  cases t.isFile (join start fileName) with
  | true => rfl
  | false => cases parent? start <;> rfl

theorem locate_of_isFile (absolute : isAbsolute start) (file : t.isFile (join start fileName)) :
    locate t start = some (join start fileName) := by
  rw [locate_eq absolute, if_pos file]

theorem locate_of_not_isFile (absolute : isAbsolute start)
    (none : t.isFile (join start fileName) = false) :
    locate t start = (parent? start).bind (locate t) := by
  rw [locate_eq absolute, none, if_neg Bool.false_ne_true]

theorem locate_join (absolute : isAbsolute dir) (name : IsName n)
    (none : t.isFile (join (join dir n) fileName) = false) :
    locate t (join dir n) = locate t (tidy dir) := by
  rw [locate_of_not_isFile (Path.isAbsolute_join absolute n) none, Path.parent?_join absolute name,
    Option.bind_some]

theorem clearBelow_singleton (none : t.isFile (join (join dir n) fileName) = false) :
    ClearBelow t dir [n] := by
  intro inner filled first
  rcases List.prefix_cons_iff.1 first with rfl | ⟨rest, rfl, last⟩
  · exact absurd rfl filled
  · obtain rfl := List.prefix_nil.1 last
    exact none

theorem ClearBelow.of_concat (clear : ClearBelow t dir (names ++ [n])) : ClearBelow t dir names :=
  fun inner filled first => clear inner filled (first.trans (List.prefix_append _ _))

/-- The way down is walked back up name by name, to the directory as it is spelled there. -/
theorem locate_below (absolute : isAbsolute dir) (named : ∀ n ∈ names, IsName n)
    (filled : names ≠ []) (clear : ClearBelow t dir names) :
    locate t (below dir names) = locate t (tidy dir) := by
  induction names using List.reverseRecOn with
  | nil => exact absurd rfl filled
  | append_singleton names n ih =>
      obtain ⟨named, name⟩ := Path.named_concat_iff.1 named
      have last := clear (names ++ [n]) filled List.prefix_rfl
      rw [Path.below_concat] at last ⊢
      rw [locate_join (Path.isAbsolute_below_of_isAbsolute absolute names) name last]
      by_cases first : names = []
      · subst first
        rfl
      · rw [Path.tidy_below absolute named first]
        exact ih named first clear.of_concat

theorem locate_tidy (absolute : isAbsolute dir)
    (none : t.isFile (join dir fileName) = false)
    (none' : t.isFile (join (tidy dir) fileName) = false) :
    locate t (tidy dir) = locate t dir := by
  rw [locate_of_not_isFile absolute none, locate_of_not_isFile (Path.isAbsolute_tidy dir) none',
    Path.parent?_tidy absolute]

theorem exists_of_locate (found : locate t start = some path) :
    ∃ dir ∈ ancestors start, path = join dir fileName := by
  obtain ⟨dir, member, rfl⟩ := List.mem_map.1 (List.mem_of_find?_eq_some found)
  exact ⟨dir, member, rfl⟩

/-! What is made of the file. -/

theorem load_join_tidy (absolute : isAbsolute dir) (file : t.isFile (join dir fileName)) :
    load t (join (tidy dir) fileName) = load t (join dir fileName) := by
  unfold load
  rw [FileTree.readText_join_tidy absolute isName_fileName (FileTree.accepts_of_isFile file)]

theorem ne_notFound_of_load {e : ConfigError} (failed : load t path = .error e) (dir : String) :
    e ≠ .notFound dir := by
  rintro rfl
  unfold load at failed
  split at failed
  · unfold ofDocument validate at failed
    split at failed
    · split at failed <;> cases failed
    · cases failed
  · cases failed

theorem discover_of_locate (found : locate t start = some path) :
    discover t start =
      (load t path).map fun c => (c.relativeTo ((parent? path).getD "."), path) := by
  unfold discover
  rw [found]
  cases loaded : load t path with
  | error e => simp [loaded, bind, Except.bind, Except.map]
  | ok c => simp [loaded, bind, Except.bind, Except.map, pure, Except.pure]

theorem discover_of_not_located (none : locate t start = none) :
    discover t start = .error (.notFound start) := by
  unfold discover
  rw [none]

theorem discover_of_isFile (absolute : isAbsolute dir) (file : t.isFile (join dir fileName)) :
    discover t dir =
      (load t (join dir fileName)).map fun c => (c.relativeTo (tidy dir), join dir fileName) := by
  rw [discover_of_locate (locate_of_isFile absolute file),
    Path.parent?_join absolute isName_fileName, Option.getD_some]

/-! Two searches. -/

variable {SamePath : String → String → Prop}

theorem SameOutcome.of_locate_eq (refl : ∀ path, SamePath path path)
    (same : locate t start = locate t other) :
    SameOutcome SamePath start other (discover t start) (discover t other) := by
  cases found : locate t other with
  | none =>
      rw [discover_of_not_located found, discover_of_not_located (same.trans found)]
      exact .notFound
  | some path =>
      rw [discover_of_locate found, discover_of_locate (same.trans found)]
      cases loaded : load t path with
      | error e => exact .unusable (ne_notFound_of_load loaded)
      | ok c => exact .found _ (refl path)

/-- From a directory the same is found as from its tidy path, unless the file's path is too long only
there. -/
theorem SameOutcome.of_tidy (absolute : isAbsolute dir)
    (room : t.isFile (join (tidy dir) fileName) →
      (join dir fileName).utf8ByteSize < FileTree.pathLimit)
    (same : locate t start = locate t (tidy dir)) :
    SameOutcome Path.Same start dir (discover t start) (discover t dir) := by
  cases file' : t.isFile (join (tidy dir) fileName) with
  | true =>
      have file := (FileTree.isFile_join_iff absolute isName_fileName).2 ⟨file', room file'⟩
      have found := same.trans (locate_of_isFile (Path.isAbsolute_tidy dir) file')
      rw [discover_of_isFile absolute file, discover_of_locate found, load_join_tidy absolute file,
        Path.parent?_join (Path.isAbsolute_tidy dir) isName_fileName, Path.tidy_tidy]
      cases loaded : load t (join dir fileName) with
      | error e => exact .unusable (ne_notFound_of_load loaded)
      | ok c => exact .found _ (Path.same_join_tidy absolute isName_fileName)
  | false =>
      -- both searches go on from the same directory around
      have file : t.isFile (join dir fileName) = false := by
        refine Bool.eq_false_iff.2 fun file => ?_
        cases file'.symm.trans ((FileTree.isFile_join_iff absolute isName_fileName).1 file).1
      exact of_locate_eq (fun _ => rfl) (same.trans (locate_tidy absolute file file'))

theorem SameOutcome.eq_error {outcome : Except ConfigError (Config × String)} {e : ConfigError}
    (present : ∀ dir, e ≠ .notFound dir)
    (same : SameOutcome SamePath start other outcome (.error e)) : outcome = .error e := by
  cases same with
  | unusable => rfl
  | notFound => exact absurd rfl (present other)

/-! The configuration that is found. -/

theorem relativeTo_eq (c : Config) (base : String) :
    c.relativeTo base = { c with
      schema := if isAbsolute c.schema then c.schema else join base c.schema
      output := if isAbsolute c.output then c.output else join base c.output } := by
  have kept (path : String) : (if isAbsolute path then path else join base path) = join base path :=
    ite_eq_right_iff.2 fun absolute => (if_pos absolute).symm
  rw [relativeTo, kept, kept]

theorem relativeTo_of_isAbsolute (schema : isAbsolute c.schema) (output : isAbsolute c.output)
    (base : String) : c.relativeTo base = c := by
  simp [relativeTo, join, schema, output]

theorem discover_eq_ok (absolute : isAbsolute start) (found : discover t start = .ok (c, path)) :
    ∃ base own, isAbsolute base ∧ parent? path = some base ∧ load t path = .ok own ∧
      c = own.relativeTo base := by
  cases located : locate t start with
  | none =>
      rw [discover_of_not_located located] at found
      cases found
  | some path' =>
      obtain ⟨dir, member, rfl⟩ := exists_of_locate located
      have outer := Path.isAbsolute_of_mem_ancestorsFrom absolute member
      have around := Path.parent?_join outer isName_fileName
      rw [discover_of_locate located, around, Option.getD_some] at found
      cases loaded : load t (join dir fileName) with
      | error e =>
          rw [loaded] at found
          cases found
      | ok own =>
          rw [loaded] at found
          cases found
          exact ⟨tidy dir, own, Path.isAbsolute_tidy dir, around, loaded, rfl⟩

/-- The search for a configuration does not depend on where below a directory it starts, as long as
no other one lies between. It comes to the same as from the directory spelled without slashes and dots
at its end, to the text of the path. From the directory as it is spelled it comes to the same too,
unless slashes and dots make the path of the file in it too long to be looked up. A file that cannot be
used is reported, whatever lies further up. Schema and output of what is found are absolute: as they
stand in the file, or seen from its directory. So no other base changes them. -/
theorem discover_below :
    (∀ (t : FileTree) (dir : String) (names : List String),
      isAbsolute dir → (∀ n ∈ names, IsName n) → ClearBelow t dir names →
        (names ≠ [] → SameOutcome Eq (below dir names) (tidy dir)
          (discover t (below dir names)) (discover t (tidy dir))) ∧
        ((t.isFile (join (tidy dir) fileName) →
            (join dir fileName).utf8ByteSize < FileTree.pathLimit) →
          SameOutcome Path.Same (below dir names) dir
            (discover t (below dir names)) (discover t dir)) ∧
        ∀ e, t.isFile (join dir fileName) → load t (join dir fileName) = .error e →
          discover t (below dir names) = .error e) ∧
    ∀ t start c path, isAbsolute start → discover t start = .ok (c, path) →
      ∃ base own, parent? path = some base ∧ load t path = .ok own ∧
        c = { own with
          schema := if isAbsolute own.schema then own.schema else join base own.schema
          output := if isAbsolute own.output then own.output else join base own.output } ∧
        isAbsolute c.schema ∧ isAbsolute c.output ∧ ∀ further, c.relativeTo further = c := by
  refine ⟨fun t dir names absolute named clear => ?_, fun t start c path absolute found => ?_⟩
  · have up : names ≠ [] → locate t (below dir names) = locate t (tidy dir) :=
      fun filled => locate_below absolute named filled clear
    have agree (room : t.isFile (join (tidy dir) fileName) →
        (join dir fileName).utf8ByteSize < FileTree.pathLimit) :
        SameOutcome Path.Same (below dir names) dir (discover t (below dir names))
          (discover t dir) := by
      by_cases filled : names = []
      · subst filled
        exact .of_locate_eq (fun _ => rfl) rfl
      · exact .of_tidy absolute room (up filled)
    refine ⟨fun filled => .of_locate_eq (fun _ => rfl) (up filled), agree, ?_⟩
    intro e file failed
    have room := ((FileTree.isFile_join_iff absolute isName_fileName).1 file).2
    have here : discover t dir = .error e := by
      rw [discover_of_isFile absolute file, failed]
      rfl
    have same := agree fun _ => room
    rw [here] at same
    exact same.eq_error (ne_notFound_of_load failed)
  · obtain ⟨base, own, outer, around, loaded, rfl⟩ := discover_eq_ok absolute found
    have schema : isAbsolute (own.relativeTo base).schema := Path.isAbsolute_join outer own.schema
    have output : isAbsolute (own.relativeTo base).output := Path.isAbsolute_join outer own.output
    refine ⟨base, own, around, loaded, ?_, schema, output, relativeTo_of_isAbsolute schema output⟩
    exact relativeTo_eq own base

/-- A project with a broken configuration around it, and a directory in it with the name of one. -/
def nested : FileTree where
  entries := [([fileName], .file (Text.Utf8.encode "schema") FileTree.fileMode),
    (["a"], .directory),
    (["a", fileName], .file (Text.Utf8.encode "schema = 's'\noutput = '/o'") FileTree.fileMode),
    (["a", "b"], .directory), (["a", "b", fileName], .directory)]

theorem load_nested :
    load nested "/a/apigen.toml" = .ok { new "s" with output := "/o" } := by
  have text : nested.readText "/a/apigen.toml" = .ok (some "schema = 's'\noutput = '/o'") := by
    decide +kernel
  unfold load
  rw [text]
  cbv

theorem relativeTo_nested :
    relativeTo { new "s" with output := "/o" } "/a" = { new "/a/s" with output := "/o" } := by
  have schema : join "/a" "s" = "/a/s" := by decide
  have output : join "/a" "/o" = "/o" := by decide
  simp only [relativeTo, new, schema, output]

theorem load_nested_outer : load nested "/apigen.toml" = .error .malformed := by
  have text : nested.readText "/apigen.toml" = .ok (some "schema") := by
    decide +kernel
  unfold load
  rw [text]
  cbv

/-- The configuration of the inner project is found from below it, also by another spelling of its
directory. From elsewhere below the root the broken one is reported, and in an empty tree nothing is
found. -/
theorem discover_below_nested :
    let found : Config := { new "/a/s" with output := "/o" }
    discover nested "/a/." = .ok (found, "/a/./apigen.toml") ∧
    discover nested (below "/a/." ["b", "c"]) = .ok (found, "/a/apigen.toml") ∧
    SameOutcome Path.Same (below "/a/." ["b", "c"]) "/a/." (.ok (found, "/a/apigen.toml"))
      (.ok (found, "/a/./apigen.toml")) ∧
    discover nested (below "/" ["x"]) = .error .malformed ∧
    discover .empty (below "/" ["x"]) = .error (.notFound (below "/" ["x"])) ∧
    ∀ further, found.relativeTo further = found := by
  intro found
  have plain : discover nested "/a" = .ok (found, "/a/apigen.toml") := by
    have file : nested.isFile (join "/a" fileName) := by decide
    have path : join "/a" fileName = "/a/apigen.toml" := by decide
    have base : tidy "/a" = "/a" := by decide
    rw [discover_of_isFile (by decide) file, path, load_nested, Except.map, base, relativeTo_nested]
  have dotted : discover nested "/a/." = .ok (found, "/a/./apigen.toml") := by
    have file : nested.isFile (join "/a/." fileName) := by decide
    have path : join "/a/." fileName = "/a/./apigen.toml" := by decide
    have path' : join (tidy "/a/.") fileName = "/a/apigen.toml" := by decide
    have base : tidy "/a/." = "/a" := by decide
    rw [discover_of_isFile (by decide) file, ← load_join_tidy (by decide) file, path, path',
      load_nested, Except.map, base, relativeTo_nested]
  obtain ⟨agrees, rebases⟩ := discover_below
  obtain ⟨tidied, agree, -⟩ := agrees nested "/a/." ["b", "c"] (by decide) (by decide) (by decide)
  obtain ⟨-, -, broken⟩ := agrees nested "/" ["x"] (by decide) (by decide) (by decide)
  obtain ⟨-, empty, -⟩ := agrees .empty "/" ["x"] (by decide) (by decide) (by decide)
  obtain ⟨_, _, -, -, -, -, -, stays⟩ := rebases nested "/a/." found _ (by decide) dotted
  have below : discover nested (below "/a/." ["b", "c"]) = .ok (found, "/a/apigen.toml") := by
    have same := tidied (by decide)
    rw [show tidy "/a/." = "/a" by decide, plain] at same
    generalize discover nested _ = outcome at same
    cases same with
    | found c path => rw [path]
  have same := agree fun _ => by decide
  rw [below, dotted] at same
  refine ⟨dotted, below, same, broken _ (by decide) load_nested_outer, ?_, stays⟩
  have same := empty (by decide)
  rw [discover_of_not_located (by decide : locate .empty "/" = none)] at same
  generalize discover .empty _ = outcome at same
  cases same with
  | unusable present => exact absurd rfl (present "/")
  | notFound => rfl

section Slashed

/-- The directory of the project with some slashes at its end. -/
def slashed (slashes : Nat) : String :=
  Path.joined ("" :: "a" :: List.replicate slashes "")

theorem split_slashed (slashes : Nat) :
    Path.split (slashed slashes) = ["", "a"] ++ List.replicate slashes "" := by
  refine Path.split_intercalate (List.cons_ne_nil _ _) fun s member => ?_
  rcases List.mem_append.1 (show s ∈ ["", "a"] ++ List.replicate slashes "" from member) with
    lead | rest
  · exact (by decide : ∀ s ∈ ["", "a"], '/' ∉ s.toList) s lead
  · rw [List.eq_of_mem_replicate rest]
    decide

theorem utf8ByteSize_slashed (slashes : Nat) : (slashed slashes).utf8ByteSize = slashes + 2 := by
  have a : "a".utf8ByteSize = 1 := rfl
  have none : "".utf8ByteSize = 0 := rfl
  rw [slashed, Path.utf8ByteSize_joined_cons]
  simp [a, none]
  omega

theorem idle_slashed (slashes : Nat) :
    ∀ s ∈ List.replicate slashes "", Path.component? s = none :=
  fun _ member => List.eq_of_mem_replicate member ▸ rfl

theorem isAbsolute_slashed (slashes : Nat) : isAbsolute (slashed slashes) := by
  rw [slashed, Path.joined_cons "" (List.cons_ne_nil _ _), String.empty_append]
  exact Path.isAbsolute_slash_append _

theorem trunk_slashed (slashes : Nat) : Path.trunk (slashed slashes) = ["a"] := by
  rw [Path.trunk, split_slashed]
  have ends : Path.dropEmptyEnd (["a"] ++ List.replicate slashes "") = Path.dropEmptyEnd ["a"] :=
    Path.dropEmptyEnd_append_of_none (idle_slashed slashes)
  exact ends

theorem isDirectory_slashed (slashes : Nat) (short : slashes + 2 < FileTree.pathLimit) :
    nested.isDirectory (slashed slashes) := by
  have accepted : FileTree.Accepts (slashed slashes) := by
    refine FileTree.accepts_iff.2
      ⟨?_, Path.ne_empty_of_isAbsolute (isAbsolute_slashed slashes), ?_⟩
    · rw [Path.mem_toList_iff (by decide), split_slashed]
      simp
    · rwa [utf8ByteSize_slashed]
  have walked : nested.walk (Path.split (slashed slashes)) = .ok ["a"] := by
    rw [split_slashed]
    exact FileTree.walk_append_idle (idle_slashed slashes) (by decide) (by decide)
  have found : nested.stat (slashed slashes) = .ok (["a"], .directory) :=
    FileTree.stat_eq_ok_iff.2 ⟨accepted, walked, by decide⟩
  unfold FileTree.isDirectory
  rw [found]

/-- With slashes at its end the path of the project's directory can be so long that the path of the
file in it is refused. Then the broken configuration around the project is reported from that
directory, and its own is found from below. -/
theorem discover_slashed :
    let dir := slashed 4085
    let found : Config := { new "/a/s" with output := "/o" }
    isAbsolute dir ∧ nested.isDirectory dir ∧ IsName "x" ∧ ClearBelow nested dir ["x"] ∧
      discover nested (below dir ["x"]) = .ok (found, "/a/apigen.toml") ∧
      discover nested dir = .error .malformed ∧
      ¬SameOutcome Path.Same (below dir ["x"]) dir (discover nested (below dir ["x"]))
        (discover nested dir) := by
  intro dir found
  have absolute : isAbsolute dir := isAbsolute_slashed 4085
  have name : IsName "x" := by decide
  have tidied : tidy dir = "/a" := by
    rw [tidy, trunk_slashed]
    decide
  have size : dir.utf8ByteSize = 4087 := utf8ByteSize_slashed 4085
  have eleven : fileName.utf8ByteSize = 11 := rfl
  have limit : FileTree.pathLimit = 4096 := rfl
  have clear : ClearBelow nested dir ["x"] := by
    have longer := Path.le_utf8ByteSize_join dir name
    exact clearBelow_singleton (FileTree.isFile_of_long isName_fileName (by omega))
  have below : discover nested (below dir ["x"]) = .ok (found, "/a/apigen.toml") := by
    have located : locate nested (below dir ["x"]) = some "/a/apigen.toml" := by
      rw [locate_below absolute (by decide) (List.cons_ne_nil _ _) clear, tidied]
      decide
    have around : parent? "/a/apigen.toml" = some "/a" := by decide
    rw [discover_of_locate located, load_nested, Except.map, around, Option.getD_some,
      relativeTo_nested]
  have here : discover nested dir = .error .malformed := by
    have parent : parent? dir = some "/" :=
      Path.parent?_of_trunk_eq_concat absolute
        (show Path.trunk dir = [] ++ ["a"] from trunk_slashed 4085)
    have located : locate nested dir = some "/apigen.toml" := by
      have missed : nested.isFile (join dir fileName) = false :=
        FileTree.isFile_of_long isName_fileName (by omega)
      rw [locate_of_not_isFile absolute missed, parent]
      decide
    rw [discover_of_locate located, load_nested_outer]
    rfl
  refine ⟨absolute, isDirectory_slashed 4085 (by decide), name, clear, below, here, ?_⟩
  rw [below, here]
  intro same
  cases same

end Slashed

end Scaffold.Config
