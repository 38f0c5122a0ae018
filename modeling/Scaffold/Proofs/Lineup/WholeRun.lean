import Scaffold.Plugin.Stub
import Scaffold.Proofs.Lineup.InTurn
import Scaffold.Proofs.Lineup.Priority

/-!
What a whole run makes: one merge of what the plugins return, with the adapter's answer in place of
what was generated before it.
-/

namespace Scaffold

open Scaffold.Bundle (mergeAll)

/-- What the plugins of a run return. `generated` is what the generators have made together, `base`
what stands in its place after the adapter, and `seen` what each deploy plugin is handed. -/
structure Outputs where
  generators : List Bundle
  generated : Bundle
  base : Bundle
  auth : List Bundle
  database : Option Bundle
  migrations : Option Bundle
  seen : List Bundle
  deploy : List Bundle

namespace Outputs

/-- What comes together before the first deploy plugin. -/
def beforeDeploy (o : Outputs) : List Bundle :=
  o.base :: (o.auth ++ o.database.toList ++ o.migrations.toList)

def all (o : Outputs) : List Bundle :=
  o.beforeDeploy ++ o.deploy

end Outputs

namespace Lineup

variable (l : Lineup) (schema : Schema) (options : GenerationOptions)

/-- Without an adapter a run goes on with what was generated, else with what the adapter returns for
that, merged for itself. -/
def Adapts (generated base : Bundle) : Prop :=
  match l.adapter with
  | none => base = generated
  | some a => ∃ adapted, a.adapt generated options = .ok adapted ∧
      mergeAll l.strategy [adapted] = .ok base

/-- Migrations are asked for if there is a schema to start from. The database plugin may have none
even then. -/
def Migrates (d : Database) (migrations : Option Bundle) : Prop :=
  match l.previous with
  | none => migrations = none
  | some previous => d.migrations schema (some previous) = .ok migrations

def Stores (database migrations : Option Bundle) : Prop :=
  match l.database with
  | none => database = none ∧ migrations = none
  | some d =>
      (∃ output, d.generate schema options = .ok output ∧ database = some output) ∧
        l.Migrates schema d migrations

/-- These are the outputs of the plugins, each asked in the order of its kind. A deploy plugin is
asked with the merge of everything before it, what earlier deploy plugins returned included. -/
structure Yields (o : Outputs) : Prop where
  generators : List.Forall₂ (fun g b => g.generate schema options = .ok b)
    l.orderedGenerators o.generators
  generated : mergeAll l.strategy o.generators = .ok o.generated
  base : l.Adapts options o.generated o.base
  auth : List.Forall₂ (fun a b => a.generate schema options = .ok b) l.orderedAuth o.auth
  stored : l.Stores schema options o.database o.migrations
  seen_length : o.seen.length = l.orderedDeploy.length
  deploy_length : o.deploy.length = l.orderedDeploy.length
  seen_merged : ∀ (j : Nat) b, o.seen[j]? = some b →
    mergeAll l.strategy (o.beforeDeploy ++ o.deploy.take j) = .ok b
  deployed : ∀ (j : Nat) d b output, l.orderedDeploy[j]? = some d → o.seen[j]? = some b →
    o.deploy[j]? = some output → d.generate b options = .ok output

section Stages

variable {l schema options}

theorem result_perform_generators {generated : Bundle} :
    (l.perform schema options (l.orderedGenerators.map .generator) .empty).result = .ok generated ↔
      ∃ outputs, List.Forall₂ (fun g b => g.generate schema options = .ok b)
        l.orderedGenerators outputs ∧ mergeAll l.strategy outputs = .ok generated :=
  l.result_perform_map_of_const schema options (fun _ _ => rfl) fun _ _ => rfl

theorem result_perform_auth {base final : Bundle} :
    (l.perform schema options (l.orderedAuth.map .auth) base).result = .ok final ↔
      ∃ outputs, List.Forall₂ (fun a b => a.generate schema options = .ok b)
        l.orderedAuth outputs ∧ outputs.foldlM (Bundle.merge l.strategy) base = .ok final :=
  l.result_perform_map_of_const schema options (fun _ _ => rfl) fun _ _ => rfl

theorem result_perform_nil {start final : Bundle} :
    (l.perform schema options [] start).result = .ok final ↔ start = final :=
  ⟨Except.ok.inj, congrArg Except.ok⟩

theorem result_perform_singleton {s : Step} {start final : Bundle} :
    (l.perform schema options [s] start).result = .ok final ↔
      s.advance l.strategy ⟨schema, options, start⟩ = .ok final := by
  rw [result_perform_cons]
  simp only [result_perform_nil, exists_eq_right]

theorem result_perform_adapter {generated base : Bundle} :
    (l.perform schema options (l.adapter.toList.map .adapter) generated).result = .ok base ↔
      l.Adapts options generated base := by
  unfold Adapts
  cases l.adapter with
  | none => exact result_perform_nil.trans eq_comm
  | some a => exact result_perform_singleton.trans Step.advance_adapter_eq_ok_iff

theorem handed_perform_adapter {generated base : Bundle}
    (adapted : l.Adapts options generated base) :
    (l.perform schema options (l.adapter.toList.map .adapter) generated).handed =
      l.adapter.toList.map fun a => (.adapter a, generated) := by
  have ended : (l.perform schema options (l.adapter.toList.map .adapter) generated).result =
      .ok base := result_perform_adapter.2 adapted
  cases present : l.adapter with
  | none => rfl
  | some a =>
      rw [present] at ended
      have advanced := result_perform_singleton.1 ended
      unfold Run.handed
      exact congrArg (List.filterMap Call.handed?)
        (calls_perform_cons l schema options advanced)

theorem result_perform_migrations {d : Database} {start final : Bundle} :
    (l.perform schema options (l.previous.toList.map (.migrations d)) start).result = .ok final ↔
      ∃ migrations, l.Migrates schema d migrations ∧
        migrations.toList.foldlM (Bundle.merge l.strategy) start = .ok final := by
  unfold Migrates
  cases l.previous with
  | none =>
      simp only [exists_eq_left]
      exact result_perform_nil.trans ⟨congrArg Except.ok, Except.ok.inj⟩
  | some previous => exact result_perform_singleton.trans Step.advance_migrations_eq_ok_iff

theorem result_perform_database {start final : Bundle} :
    (l.perform schema options (l.database.toList.flatMap fun d =>
        .database d :: l.previous.toList.map (.migrations d)) start).result = .ok final ↔
      ∃ database migrations, l.Stores schema options database migrations ∧
        (database.toList ++ migrations.toList).foldlM (Bundle.merge l.strategy) start =
          .ok final := by
  unfold Stores
  cases l.database with
  | none =>
      rw [Option.toList_none, List.flatMap_nil, result_perform_nil]
      constructor
      · rintro rfl
        exact ⟨none, none, ⟨rfl, rfl⟩, rfl⟩
      · rintro ⟨_, _, ⟨rfl, rfl⟩, ended⟩
        exact Except.ok.inj ended
  | some d =>
      rw [Option.toList_some, List.flatMap_singleton, result_perform_cons]
      constructor
      · rintro ⟨next, advanced, rest⟩
        obtain ⟨output, answered, merged⟩ :=
          (Step.advance_eq_ok_iff_of_answer rfl).1 advanced
        obtain ⟨migrations, migrates, ended⟩ := result_perform_migrations.1 rest
        exact ⟨some output, migrations, ⟨⟨output, answered, rfl⟩, migrates⟩,
          Bundle.foldlM_merge_cons_eq_ok_iff.2 ⟨next, merged, ended⟩⟩
      · rintro ⟨_, migrations, ⟨⟨output, answered, rfl⟩, migrates⟩, ended⟩
        obtain ⟨next, merged, rest⟩ := Bundle.foldlM_merge_cons_eq_ok_iff.1 ended
        exact ⟨next, (Step.advance_eq_ok_iff_of_answer rfl).2 ⟨output, answered, merged⟩,
          result_perform_migrations.2 ⟨migrations, migrates, rest⟩⟩

end Stages

def additions : List Step :=
  l.orderedAuth.map .auth ++ l.database.toList.flatMap fun d =>
    .database d :: l.previous.toList.map (.migrations d)

theorem plan_eq_stages :
    l.plan = l.orderedGenerators.map .generator ++ (l.adapter.toList.map .adapter ++
      (l.additions ++ l.orderedDeploy.map .deploy)) := by
  unfold plan additions
  simp only [List.append_assoc]

theorem unread_of_mem_additions {s : Step} (member : s ∈ l.additions) : s.reader? = none := by
  unfold additions at member
  rcases List.mem_append.1 member with auth | stored
  · obtain ⟨a, -, rfl⟩ := List.mem_map.1 auth
    rfl
  · obtain ⟨d, -, asked⟩ := List.mem_flatMap.1 stored
    rcases List.mem_cons.1 asked with rfl | migrated
    · rfl
    · obtain ⟨previous, -, rfl⟩ := List.mem_map.1 migrated
      rfl

theorem result_perform_additions {l : Lineup} {schema : Schema} {options : GenerationOptions}
    {base start : Bundle} (distinct : base.Distinct) :
    (l.perform schema options l.additions base).result = .ok start ↔
      ∃ auth database migrations,
        List.Forall₂ (fun a b => a.generate schema options = .ok b) l.orderedAuth auth ∧
        l.Stores schema options database migrations ∧
        mergeAll l.strategy (base :: (auth ++ database.toList ++ migrations.toList)) =
          .ok start := by
  unfold additions
  -- Merging all of them starts from the empty bundle, the run from the base.
  simp only [Bundle.mergeAll_cons_of_distinct l.strategy distinct, List.append_assoc]
  rw [result_perform_append]
  constructor
  · rintro ⟨middle, first, second⟩
    obtain ⟨auth, answered, merged⟩ := result_perform_auth.1 first
    obtain ⟨database, migrations, stored, ended⟩ := result_perform_database.1 second
    exact ⟨auth, database, migrations, answered, stored,
      Bundle.foldlM_merge_append_eq_ok_iff.2 ⟨middle, merged, ended⟩⟩
  · rintro ⟨auth, database, migrations, answered, stored, merged⟩
    obtain ⟨middle, first, rest⟩ := Bundle.foldlM_merge_append_eq_ok_iff.1 merged
    exact ⟨middle, result_perform_auth.2 ⟨auth, answered, first⟩,
      result_perform_database.2 ⟨database, migrations, stored, rest⟩⟩

theorem Adapts.distinct {l : Lineup} {options : GenerationOptions} {generated base : Bundle}
    (adapted : l.Adapts options generated base) (distinct : generated.Distinct) :
    base.Distinct := by
  unfold Adapts at adapted
  cases present : l.adapter with
  | none =>
      rw [present] at adapted
      exact adapted ▸ distinct
  | some a =>
      rw [present] at adapted
      obtain ⟨_, -, merged⟩ := adapted
      exact Bundle.distinct_mergeAll merged

namespace Yields

variable {l : Lineup} {schema : Schema} {options : GenerationOptions} {o : Outputs}

theorem distinct_base (yields : l.Yields schema options o) : o.base.Distinct :=
  yields.base.distinct (Bundle.distinct_mergeAll yields.generated)

theorem inTurn (yields : l.Yields schema options o) {start : Bundle}
    (before : mergeAll l.strategy o.beforeDeploy = .ok start) :
    InTurn l.strategy (fun d b => d.generate b options) l.orderedDeploy start o.seen o.deploy where
  seen_length := yields.seen_length
  outputs_length := yields.deploy_length
  seen_merged := by
    intro j b here
    have merged := yields.seen_merged j b here
    rw [Bundle.mergeAll_append_of_ok before] at merged
    exact merged
  answered := yields.deployed

/-- The stages of a run with these outputs, each from where the one before it ends. -/
theorem stages (yields : l.Yields schema options o) {full : Bundle}
    (merged : mergeAll l.strategy o.all = .ok full) :
    ∃ start, (l.perform schema options (l.orderedGenerators.map .generator) .empty).result =
        .ok o.generated ∧
      (l.perform schema options (l.adapter.toList.map .adapter) o.generated).result = .ok o.base ∧
      (l.perform schema options l.additions o.base).result = .ok start ∧
      InTurn l.strategy (fun d b => d.generate b options) l.orderedDeploy start o.seen o.deploy ∧
      o.deploy.foldlM (Bundle.merge l.strategy) start = .ok full := by
  obtain ⟨start, before, rest⟩ := Bundle.mergeAll_append_eq_ok_iff.1 merged
  exact ⟨start, result_perform_generators.2 ⟨o.generators, yields.generators, yields.generated⟩,
    result_perform_adapter.2 yields.base,
    (result_perform_additions yields.distinct_base).2
      ⟨o.auth, o.database, o.migrations, yields.auth, yields.stored, before⟩,
    yields.inTurn before, rest⟩

end Yields

section Outcome

variable {l schema options}

theorem result_perform_deploy {start final : Bundle} :
    (l.perform schema options (l.orderedDeploy.map .deploy) start).result = .ok final ↔
      ∃ seen outputs, InTurn l.strategy (fun d b => d.generate b options) l.orderedDeploy start
        seen outputs ∧ outputs.foldlM (Bundle.merge l.strategy) start = .ok final :=
  l.result_perform_map schema options (fun _ _ => rfl) fun _ _ => rfl

/-- A run ends well exactly if its plugins return outputs that merge. -/
theorem result_perform_plan {full : Bundle} :
    (l.perform schema options l.plan .empty).result = .ok full ↔
      ∃ o, l.Yields schema options o ∧ mergeAll l.strategy o.all = .ok full := by
  rw [plan_eq_stages]
  simp only [result_perform_append]
  constructor
  · rintro ⟨generated, first, base, second, start, third, last⟩
    obtain ⟨generators, answered, made⟩ := result_perform_generators.1 first
    have adapted := result_perform_adapter.1 second
    have distinct := adapted.distinct (Bundle.distinct_mergeAll made)
    obtain ⟨auth, database, migrations, secured, stored, before⟩ :=
      (result_perform_additions distinct).1 third
    obtain ⟨seen, deploy, turn, ended⟩ := result_perform_deploy.1 last
    refine ⟨⟨generators, generated, base, auth, database, migrations, seen, deploy⟩,
      ⟨answered, made, adapted, secured, stored, turn.seen_length, turn.outputs_length, ?_,
        turn.answered⟩, ?_⟩
    · intro j b here
      exact (Bundle.mergeAll_append_of_ok before _).trans (turn.seen_merged j b here)
    · exact (Bundle.mergeAll_append_of_ok before _).trans ended
  · rintro ⟨o, yields, merged⟩
    obtain ⟨start, first, second, third, turn, ended⟩ := yields.stages merged
    exact ⟨o.generated, first, o.base, second, start, third,
      result_perform_deploy.2 ⟨o.seen, o.deploy, turn, ended⟩⟩

theorem handed_perform_plan {o : Outputs} (yields : l.Yields schema options o) {full : Bundle}
    (merged : mergeAll l.strategy o.all = .ok full) :
    (l.perform schema options l.plan .empty).handed =
      l.adapter.toList.map (fun a => (.adapter a, o.generated)) ++
        (l.orderedDeploy.map .deploy).zip o.seen := by
  obtain ⟨start, first, second, third, turn, ended⟩ := yields.stages merged
  have generators : ∀ s ∈ l.orderedGenerators.map Step.generator, s.reader? = none := by
    intro s member
    obtain ⟨g, -, rfl⟩ := List.mem_map.1 member
    rfl
  rw [plan_eq_stages, l.handed_perform_append schema options first,
    l.handed_perform_append schema options second, l.handed_perform_append schema options third,
    l.handed_perform_of_unread schema options generators,
    l.handed_perform_of_unread schema options fun _ => l.unread_of_mem_additions,
    handed_perform_adapter yields.base,
    l.handed_perform_map schema options (fun _ _ => rfl) (fun _ _ => rfl) (fun _ => rfl) turn ended]
  rfl

theorem result_generateFrom {now : Instant} {bundle : Bundle} :
    (l.generateFrom now schema options).result = .ok bundle ↔
      ∃ o full, l.Yields schema options o ∧ mergeAll l.strategy o.all = .ok full ∧
        l.finish now full = bundle := by
  change Except.map (l.finish now) (l.perform schema options l.plan .empty).result = _ ↔ _
  rw [map_eq_ok_iff]
  simp only [result_perform_plan]
  constructor
  · rintro ⟨full, ⟨o, yields, merged⟩, finished⟩
    exact ⟨o, full, yields, merged, finished⟩
  · rintro ⟨o, full, yields, merged, finished⟩
    exact ⟨full, ⟨o, yields, merged⟩, finished⟩

end Outcome

/-- The files of a run that ends well are those of one merge: of what the run goes on with after the
generators, and of what all later plugins return, in the order in which they run. Plugins of a kind
run by priority and then by registration. -/
theorem files_generateFrom {l : Lineup} {now : Instant} {schema : Schema}
    {options : GenerationOptions} {bundle : Bundle}
    (ended : (l.generateFrom now schema options).result = .ok bundle) :
    ∃ o, l.Yields schema options o ∧
      (mergeAll l.strategy o.all).map (·.files) = .ok bundle.files ∧
      (l.generateFrom now schema options).handed =
        l.adapter.toList.map (fun a => (.adapter a, o.generated)) ++
          (l.orderedDeploy.map .deploy).zip o.seen ∧
      StablySorted (·.info.priority) l.generators l.orderedGenerators ∧
      StablySorted (·.info.priority) l.auth l.orderedAuth ∧
      StablySorted (·.info.priority) l.deploy l.orderedDeploy := by
  obtain ⟨o, full, yields, merged, rfl⟩ := result_generateFrom.1 ended
  refine ⟨o, yields, ?_, handed_perform_plan yields merged, l.stablySorted_orderedGenerators,
    l.stablySorted_orderedAuth, l.stablySorted_orderedDeploy⟩
  rw [merged]
  rfl

/-- A lineup in which each kind of plugin has its say. The adapter repeats a path, and the deploy
plugin that runs last writes all that it is handed once more. -/
def sample : Lineup where
  generators := [{ Stub.new "rest" with files := [{ path := "api", content := "open" }] }.generator]
  adapter := some {
    info := { name := "wiring", version := "1" }
    framework := "none"
    adapt bundle _ := .ok { files := bundle.files ++ [{ path := "api", content := "wired" }] } }
  auth := [{ Stub.new "tokens" with files := [{ path := "auth", content := "keys" }] }.auth]
  database := some { Stub.new "tables" with
    files := [{ path := "db", content := "tables" }]
    migrations := some { files := [{ path := "up", content := "column" }] } }.database
  previous := some (Schema.new {} [] [])
  deploy := [
    { info := { name := "seal", version := "1", priority := 1 }
      target := "none"
      generate bundle _ := .ok { files := bundle.files.map ({ · with overwrite := some true }) } },
    { Stub.new "image" with files := [{ path := "image", content := "layers" }] }.deploy]

theorem files_generateFrom_sample :
    ∃ bundle, (sample.generateFrom ⟨0, 0⟩ (Schema.new {} [] []) {}).result = .ok bundle ∧
      bundle.paths = ["api", "auth", "db", "up", "image"] ∧
      bundle.files.all (·.overwrite = some true) ∧
      ∃ o, sample.Yields (Schema.new {} [] []) {} o ∧
        (mergeAll .lastWins o.all).map (·.files) = .ok bundle.files := by
  obtain ⟨bundle, ended, paths, sealed⟩ : ∃ bundle : Bundle,
      (sample.generateFrom ⟨0, 0⟩ (Schema.new {} [] []) {}).result = .ok bundle ∧
        bundle.paths = ["api", "auth", "db", "up", "image"] ∧
        bundle.files.all (·.overwrite = some true) := ⟨_, rfl, rfl, rfl⟩
  obtain ⟨o, yields, files, -⟩ := files_generateFrom ended
  exact ⟨bundle, ended, paths, sealed, o, yields, files⟩

end Lineup

end Scaffold
