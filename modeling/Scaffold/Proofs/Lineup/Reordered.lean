import Scaffold.Proofs.Lineup.Packages

/-!
Registration order does not matter where priorities decide. Two lineups of the same plugins, in each
kind with priorities of their own, ask them in one order and so make the same code. What plugins
declare is merged as they were registered; the versions that come out differ in their text at most.
-/

namespace Scaffold

namespace Lineup

/-- The same lineup but for the order in which generators, auth and deploy plugins were
registered. -/
structure Reordered (l m : Lineup) : Prop where
  parser : l.parser = m.parser
  generators : l.generators.Perm m.generators
  adapter : l.adapter = m.adapter
  auth : l.auth.Perm m.auth
  database : l.database = m.database
  deploy : l.deploy.Perm m.deploy
  strategy : l.strategy = m.strategy
  previous : l.previous = m.previous
  strict : l.strict = m.strict

/-- No two plugins of a kind have one priority. -/
structure Ranked (l : Lineup) : Prop where
  generators : (l.generators.map (·.info.priority)).Nodup
  auth : (l.auth.map (·.info.priority)).Nodup
  deploy : (l.deploy.map (·.info.priority)).Nodup

/-- What a run has made at its end, and what plugins declare: each package that anyone contributed
once, with an entry that does justice to all contributions. -/
theorem upholds_finish {l : Lineup} {schema : Schema} {options : GenerationOptions} {full : Bundle}
    (performed : (l.perform schema options l.plan .empty).result = .ok full) (now : Instant) :
    let calls := (l.perform schema options l.plan .empty).calls
    (∀ name, name ∈ (l.finish now full).dependencies.map (·.name) ↔
      ∃ e, l.Contributed calls e ∧ e.name = name) ∧
    ∀ d ∈ (l.finish now full).dependencies,
      Dependency.Upholds (fun e => l.Contributed calls e ∧ e.name = d.name) d := by
  intro calls
  obtain ⟨names, upholds⟩ :=
    mergeDependencies_upholds ((l.kept calls).flatMap (·.dependencies)) l.declared
  rw [← Bundle.dependencies_of_mergeAll (mergeAll_kept performed), ← declaredDependencies_eq]
    at names upholds
  constructor
  · intro name
    change name ∈ (mergeDependencies _ _).map (·.name) ↔ _
    rw [names, List.mem_eraseDups, List.mem_map]
    simp only [contributed_iff, calls]
  · intro d member
    exact (upholds d member).congr fun e => by rw [contributed_iff]

namespace Reordered

variable {l m : Lineup}

theorem symm (reordered : l.Reordered m) : m.Reordered l where
  parser := reordered.parser.symm
  generators := reordered.generators.symm
  adapter := reordered.adapter.symm
  auth := reordered.auth.symm
  database := reordered.database.symm
  deploy := reordered.deploy.symm
  strategy := reordered.strategy.symm
  previous := reordered.previous.symm
  strict := reordered.strict.symm

theorem plan (reordered : l.Reordered m) (ranked : l.Ranked) : l.plan = m.plan := by
  have generators : l.orderedGenerators = m.orderedGenerators :=
    sortByRank_eq_of_perm reordered.generators ranked.generators
  have auth : l.orderedAuth = m.orderedAuth :=
    sortByRank_eq_of_perm reordered.auth ranked.auth
  have deploy : l.orderedDeploy = m.orderedDeploy :=
    sortByRank_eq_of_perm reordered.deploy ranked.deploy
  unfold Lineup.plan
  rw [generators, reordered.adapter, auth, reordered.database, reordered.previous, deploy]

theorem middleware (reordered : l.Reordered m) (ranked : l.Ranked) :
    l.middleware = m.middleware := by
  have auth : l.orderedAuth = m.orderedAuth :=
    sortByRank_eq_of_perm reordered.auth ranked.auth
  unfold Lineup.middleware
  rw [auth]

theorem perform (reordered : l.Reordered m) (ranked : l.Ranked) (schema : Schema)
    (options : GenerationOptions) :
    l.perform schema options l.plan .empty = m.perform schema options m.plan .empty := by
  rw [perform_congr l schema options reordered.strategy, reordered.plan ranked]

theorem active (reordered : l.Reordered m) {info : PluginInfo} (active : l.Active info) :
    m.Active info := by
  cases active with
  | adapter present => exact .adapter (reordered.adapter ▸ present)
  | generator member => exact .generator (reordered.generators.mem_iff.1 member)
  | auth member => exact .auth (reordered.auth.mem_iff.1 member)
  | database present => exact .database (reordered.database ▸ present)
  | deploy member => exact .deploy (reordered.deploy.mem_iff.1 member)

theorem contributed (reordered : l.Reordered m) {calls : List Call} {d : Dependency}
    (contributed : l.Contributed calls d) : m.Contributed calls d := by
  have kept : l.kept calls = m.kept calls := by
    unfold Lineup.kept
    rw [reordered.adapter]
  cases contributed with
  | declared active member => exact .declared (reordered.active active) member
  | declaredPeer active member => exact .declaredPeer (reordered.active active) member
  | returned member entry => exact .returned (kept ▸ member) entry

theorem contributed_iff (reordered : l.Reordered m) {calls : List Call} {d : Dependency} :
    l.Contributed calls d ↔ m.Contributed calls d :=
  ⟨reordered.contributed, reordered.symm.contributed⟩

end Reordered

end Lineup

/-- Two bundles that say the same, made at two times from the same contributions to packages: the
versions of a package may differ, but where all that were contributed can be read, neither is the
higher one. -/
structure Bundle.Equivalent (Contributed : Dependency → Prop) (now later : Instant)
    (b c : Bundle) : Prop where
  files : b.files = c.files
  metadata : ∃ contributors extra,
    b.metadata = some ⟨some now, contributors, extra⟩ ∧
    c.metadata = some ⟨some later, contributors, extra⟩
  names : ∀ name, name ∈ b.dependencies.map (·.name) ↔ name ∈ c.dependencies.map (·.name)
  versions : ∀ d ∈ b.dependencies, ∀ e ∈ c.dependencies, d.name = e.name →
    (∀ x, Contributed x → x.name = d.name → x.Readable) →
    ∃ v w, Version.parse d.version = .ok v ∧ Version.parse e.version = .ok w ∧
      v.precedence w = .eq

namespace Lineup

theorem Reordered.finish {l m : Lineup} (reordered : l.Reordered m) (ranked : l.Ranked)
    {schema : Schema} {options : GenerationOptions} {full : Bundle}
    (performed : (l.perform schema options l.plan .empty).result = .ok full)
    (now later : Instant) :
    Bundle.Equivalent (l.Contributed (l.perform schema options l.plan .empty).calls) now later
      (l.finish now full) (m.finish later full) := by
  have performed' := performed
  rw [reordered.perform ranked] at performed'
  obtain ⟨names, upholds⟩ := upholds_finish performed now
  obtain ⟨names', upholds'⟩ := upholds_finish performed' later
  simp only [← reordered.perform ranked, ← reordered.contributed_iff] at names' upholds'
  constructor
  case files => rfl
  case metadata =>
    refine ⟨_, _, rfl, ?_⟩
    unfold Lineup.finish finishExtra
    rw [reordered.plan ranked, reordered.middleware ranked]
  case names =>
    intro name
    rw [names, names']
  case versions =>
    intro d member e other same readable
    have second := upholds' e other
    rw [← same] at second
    exact (upholds d member).precedence_eq second fun x entry => readable x entry.1 entry.2

/-- Where priorities tell the plugins of each kind apart, the order of their registration makes no
difference to a run: the same plugins are asked in the same order and with the same code, it fails
with the same error or makes the same bundle, up to the time and the texts of versions. -/
theorem generateFrom_reordered {l m : Lineup} (reordered : l.Reordered m) (ranked : l.Ranked)
    (now later : Instant) (schema : Schema) (options : GenerationOptions) :
    let first := l.generateFrom now schema options
    let second := m.generateFrom later schema options
    l.middleware = m.middleware ∧ first.calls = second.calls ∧
      ((∃ e, first.result = .error e ∧ second.result = .error e) ∨
        ∃ b c, first.result = .ok b ∧ second.result = .ok c ∧
          Bundle.Equivalent (l.Contributed first.calls) now later b c) := by
  intro first second
  have same := reordered.perform ranked schema options
  have calls : first.calls = second.calls := by
    rw [generateFrom_calls, generateFrom_calls, same]
  refine ⟨reordered.middleware ranked, calls, ?_⟩
  rw [generateFrom_result, generateFrom_result, ← same]
  cases performed : (l.perform schema options l.plan .empty).result with
  | error e => exact .inl ⟨e, rfl, rfl⟩
  | ok full => exact .inr ⟨_, _, rfl, rfl, reordered.finish ranked performed now later⟩

/-- Two generators that write one file and need one package, in versions that differ in their text
only. -/
def layered : Lineup where
  generators := [
    { Stub.new "rest" with
      priority := 1
      files := [{ path := "api", content := "open" }]
      dependencies := [{ name := "zod", version := "^3.0.0" }] }.generator,
    { Stub.new "stubs" with
      files := [{ path := "api", content := "stub" }]
      dependencies := [{ name := "zod", version := "3.0.0" }] }.generator]

def layeredBackwards : Lineup :=
  { layered with generators := layered.generators.reverse }

theorem generateFrom_reordered_layered :
    layered.Reordered layeredBackwards ∧ layered.Ranked ∧ ∃ b c,
      (layered.generateFrom ⟨0, 0⟩ (Schema.new {} [] []) {}).result = .ok b ∧
      (layeredBackwards.generateFrom ⟨1, 0⟩ (Schema.new {} [] []) {}).result = .ok c ∧
      b.files = [{ path := "api", content := "open" }] ∧
      b.dependencies = [{ name := "zod", version := "^3.0.0" }] ∧
      c.dependencies = [{ name := "zod", version := "3.0.0" }] ∧
      b.Equivalent (layered.Contributed
        (layered.generateFrom ⟨0, 0⟩ (Schema.new {} [] []) {}).calls) ⟨0, 0⟩ ⟨1, 0⟩ c := by
  have reordered : layered.Reordered layeredBackwards :=
    ⟨rfl, (List.reverse_perm _).symm, rfl, .refl _, rfl, .refl _, rfl, rfl, rfl⟩
  have ranked : layered.Ranked := ⟨by decide, by decide, by decide⟩
  refine ⟨reordered, ranked, ?_⟩
  obtain ⟨b, ended, files, packages⟩ : ∃ b : Bundle,
      (layered.generateFrom ⟨0, 0⟩ (Schema.new {} [] []) {}).result = .ok b ∧
        b.files = [{ path := "api", content := "open" }] ∧
        b.dependencies = [{ name := "zod", version := "^3.0.0" }] := ⟨_, rfl, rfl, by decide⟩
  obtain ⟨c, ended', packages'⟩ : ∃ c : Bundle,
      (layeredBackwards.generateFrom ⟨1, 0⟩ (Schema.new {} [] []) {}).result = .ok c ∧
        c.dependencies = [{ name := "zod", version := "3.0.0" }] := ⟨_, rfl, by decide⟩
  rcases generateFrom_reordered reordered ranked ⟨0, 0⟩ ⟨1, 0⟩ (Schema.new {} [] []) {} with
    ⟨-, -, ⟨e, failed, -⟩ | ⟨b', c', same, same', equivalent⟩⟩
  · rw [ended] at failed
    cases failed
  · rw [ended] at same
    rw [ended'] at same'
    cases same
    cases same'
    exact ⟨b, c, ended, ended', files, packages, packages', equivalent⟩

end Lineup

end Scaffold
