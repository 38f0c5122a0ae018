import Scaffold.Plugin.Stub
import Scaffold.Proofs.Lineup.WholeRun
import Scaffold.Proofs.Merge.Packages

/-!
A run loses no package and lowers no version. What it returns is merged from two sides: the outputs
of plugins, of which those before the adapter's do not count, and what plugins declare.
-/

namespace Scaffold

open Scaffold.Bundle (mergeAll)
open Scaffold.Dependency (Upholds)

namespace Call

/-- What the plugin that was asked has returned to be merged. -/
def output? : Call → Option Bundle
  | .parse _ _ _ => none
  | .perform s input => s.answer input |>.toOption.join

def ofAdapter : Call → Bool
  | .perform (.adapter _) _ => true
  | _ => false

end Call

namespace Lineup

variable (l : Lineup)

/-- The outputs of a row of calls that the final bundle is merged from. If there is an adapter, they
begin with what it returns. -/
def kept (calls : List Call) : List Bundle :=
  match l.adapter with
  | none => calls.filterMap Call.output?
  | some _ => (calls.dropWhile fun c => !c.ofAdapter).filterMap Call.output?

/-- A plugin of a kind that runs after the parser. -/
inductive Active : PluginInfo → Prop
  | adapter {a} : l.adapter = some a → Active a.info
  | generator {g} : g ∈ l.generators → Active g.info
  | auth {a} : a ∈ l.auth → Active a.info
  | database {d} : l.database = some d → Active d.info
  | deploy {d} : d ∈ l.deploy → Active d.info

/-- The entries that plugins contribute to a run: those that they declare, for themselves and for
whoever uses the generated code, and those of the outputs that were kept. -/
inductive Contributed (calls : List Call) : Dependency → Prop
  | declared {info d} : l.Active info → d ∈ info.dependencies → Contributed calls d
  | declaredPeer {info d} : l.Active info → d ∈ info.peerDependencies → Contributed calls d
  | returned {b d} : b ∈ l.kept calls → d ∈ b.dependencies → Contributed calls d

theorem mem_declaring {info : PluginInfo} : info ∈ l.declaring ↔ l.Active info := by
  unfold declaring
  constructor
  · intro member
    simp only [List.mem_append, List.mem_map, Option.mem_toList] at member
    rcases member with (((⟨a, present, rfl⟩ | ⟨g, member, rfl⟩) | ⟨a, member, rfl⟩) |
      ⟨d, present, rfl⟩) | ⟨d, member, rfl⟩
    · exact .adapter present
    · exact .generator member
    · exact .auth member
    · exact .database present
    · exact .deploy member
  · intro active
    simp only [List.mem_append, List.mem_map, Option.mem_toList]
    cases active with
    | adapter present => exact .inl (.inl (.inl (.inl ⟨_, present, rfl⟩)))
    | generator member => exact .inl (.inl (.inl (.inr ⟨_, member, rfl⟩)))
    | auth member => exact .inl (.inl (.inr ⟨_, member, rfl⟩))
    | database present => exact .inl (.inr ⟨_, present, rfl⟩)
    | deploy member => exact .inr ⟨_, member, rfl⟩

def declared : List Dependency :=
  (l.declaring.flatMap fun info => [info.dependencies, info.peerDependencies]).flatten

theorem declaredDependencies_eq : l.declaredDependencies = mergeDependencies [] l.declared :=
  foldl_mergeDependencies [] _

theorem mem_declared {d : Dependency} :
    d ∈ l.declared ↔
      ∃ info, l.Active info ∧ (d ∈ info.dependencies ∨ d ∈ info.peerDependencies) := by
  unfold declared
  simp only [List.mem_flatten, List.mem_flatMap, mem_declaring, List.mem_cons,
    List.not_mem_nil, or_false]
  constructor
  · rintro ⟨_, ⟨info, active, rfl | rfl⟩, member⟩
    · exact ⟨info, active, .inl member⟩
    · exact ⟨info, active, .inr member⟩
  · rintro ⟨info, active, member | member⟩
    · exact ⟨_, ⟨info, active, .inl rfl⟩, member⟩
    · exact ⟨_, ⟨info, active, .inr rfl⟩, member⟩

theorem contributed_iff {calls : List Call} {d : Dependency} :
    l.Contributed calls d ↔ d ∈ (l.kept calls).flatMap (·.dependencies) ++ l.declared := by
  rw [List.mem_append, List.mem_flatMap, mem_declared]
  constructor
  · intro contributed
    cases contributed with
    | declared active member => exact .inr ⟨_, active, .inl member⟩
    | declaredPeer active member => exact .inr ⟨_, active, .inr member⟩
    | returned kept member => exact .inl ⟨_, kept, member⟩
  · rintro (⟨b, kept, member⟩ | ⟨info, active, member | member⟩)
    · exact .returned kept member
    · exact .declared active member
    · exact .declaredPeer active member

section Kept

variable {l} {schema : Schema} {options : GenerationOptions}

theorem output?_of_answer {s : Step} {input : StepInput} {output : Option Bundle}
    (answered : s.answer input = .ok output) : Call.output? (.perform s input) = output := by
  change (s.answer input).toOption.join = output
  rw [answered]
  rfl

/-- Steps that add to what was there merge their outputs into it. -/
theorem foldlM_outputs {steps : List Step} (additive : ∀ s ∈ steps, ∀ b, s.base b = b)
    {start final : Bundle} (ended : (l.perform schema options steps start).result = .ok final) :
    ((l.perform schema options steps start).calls.filterMap Call.output?).foldlM
      (Bundle.merge l.strategy) start = .ok final := by
  induction steps generalizing start with
  | nil =>
      cases ended
      rfl
  | cons s steps ih =>
      obtain ⟨next, advanced, rest⟩ := (result_perform_cons l schema options).1 ended
      have later := ih (fun t member => additive t (List.mem_cons_of_mem s member)) rest
      rw [calls_perform_cons l schema options advanced]
      rcases Step.advance_eq_ok_iff.1 advanced with ⟨answered, rfl⟩ | ⟨output, answered, merged⟩
      · rw [List.filterMap_cons_none (output?_of_answer answered)]
        exact later
      · rw [additive s List.mem_cons_self] at merged
        rw [List.filterMap_cons_some (output?_of_answer answered)]
        exact Bundle.foldlM_merge_cons_eq_ok_iff.2 ⟨next, merged, later⟩

theorem base_of_mem_later {s : Step} (member : s ∈ l.additions ++ l.orderedDeploy.map .deploy)
    (b : Bundle) : s.base b = b := by
  unfold additions at member
  simp only [List.mem_append, List.mem_map, List.mem_flatMap, List.mem_cons] at member
  rcases member with (⟨a, -, rfl⟩ | ⟨d, -, rfl | ⟨previous, -, rfl⟩⟩) | ⟨d, -, rfl⟩ <;> rfl

theorem base_of_mem_generators {s : Step} (member : s ∈ l.orderedGenerators.map Step.generator)
    (b : Bundle) : s.base b = b := by
  obtain ⟨g, -, rfl⟩ := List.mem_map.1 member
  rfl

theorem calls_perform_append {steps more : List Step} {start middle : Bundle}
    (ended : (l.perform schema options steps start).result = .ok middle) :
    (l.perform schema options (steps ++ more) start).calls =
      (l.perform schema options steps start).calls ++
        (l.perform schema options more middle).calls := by
  rw [perform_append, Run.calls_andThen ended]

/-- The calls before the adapter's are those of generators. -/
theorem dropWhile_calls_generators (start : Bundle) (more : List Call) :
    ((l.perform schema options (l.orderedGenerators.map .generator) start).calls ++
        more).dropWhile (fun c => !c.ofAdapter) = more.dropWhile fun c => !c.ofAdapter := by
  apply List.dropWhile_append_of_pos
  intro c member
  obtain ⟨s, planned, b, -, rfl⟩ := (l.perform_keeps schema options (P := fun _ => True)
    (fun _ _ _ _ _ _ => trivial) trivial).1 c member
  obtain ⟨g, -, rfl⟩ := List.mem_map.1 planned
  rfl

/-- What a run has made at its end is one merge of the outputs that it kept. -/
theorem mergeAll_kept {full : Bundle}
    (ended : (l.perform schema options l.plan .empty).result = .ok full) :
    mergeAll l.strategy (l.kept (l.perform schema options l.plan .empty).calls) = .ok full := by
  unfold kept
  rw [plan_eq_stages] at ended ⊢
  cases present : l.adapter with
  | none =>
      simp only [present, Option.toList_none, List.map_nil, List.nil_append] at ended ⊢
      exact foldlM_outputs (fun s member b => (List.mem_append.1 member).elim
        (base_of_mem_generators · b) (base_of_mem_later · b)) ended
  | some a =>
      simp only [present, Option.toList_some, List.map_singleton, List.singleton_append] at ended ⊢
      obtain ⟨generated, first, rest⟩ := (result_perform_append l schema options).1 ended
      obtain ⟨base, advanced, last⟩ := (result_perform_cons l schema options).1 rest
      obtain ⟨adapted, answered, merged⟩ := (Step.advance_eq_ok_iff_of_answer rfl).1 advanced
      have outputs := foldlM_outputs (fun s member b => base_of_mem_later member b) last
      have output : Call.output? (.perform (.adapter a) ⟨schema, options, generated⟩) =
          some adapted := output?_of_answer (congrArg (some <$> ·) answered)
      rw [calls_perform_append first, dropWhile_calls_generators,
        calls_perform_cons l schema options advanced, List.dropWhile_cons_of_neg Bool.false_ne_true,
        List.filterMap_cons_some output]
      exact Bundle.foldlM_merge_cons_eq_ok_iff.2 ⟨base, merged, outputs⟩

end Kept

/-- No package is lost in a run that ends well, and none is made up that nobody contributed. Its
version is one that was contributed, and the highest of them if all can be read. It is needed at run
time if any plugin says so. -/
theorem dependencies_generateFrom {l : Lineup} {now : Instant} {schema : Schema}
    {options : GenerationOptions} {bundle : Bundle}
    (ended : (l.generateFrom now schema options).result = .ok bundle) :
    let calls := (l.generateFrom now schema options).calls
    (bundle.dependencies.map (·.name)).Nodup ∧
    (∀ name, name ∈ bundle.dependencies.map (·.name) ↔
      ∃ e, l.Contributed calls e ∧ e.name = name) ∧
    ∀ d ∈ bundle.dependencies, Upholds (fun e => l.Contributed calls e ∧ e.name = d.name) d := by
  intro calls
  obtain ⟨full, performed, rfl⟩ := map_eq_ok_iff.1 ended
  have merged : mergeAll l.strategy (l.kept calls) = .ok full := mergeAll_kept performed
  have dependencies : (l.finish now full).dependencies = mergeDependencies
      (mergeDependencies [] ((l.kept calls).flatMap (·.dependencies)))
      (mergeDependencies [] l.declared) := by
    rw [← declaredDependencies_eq, ← Bundle.dependencies_of_mergeAll merged]
    rfl
  obtain ⟨names, upholds⟩ :=
    mergeDependencies_upholds ((l.kept calls).flatMap (·.dependencies)) l.declared
  rw [← dependencies] at names upholds
  refine ⟨names ▸ nodup_eraseDups _, ?_, ?_⟩
  · intro name
    rw [names, List.mem_eraseDups, List.mem_map]
    simp only [contributed_iff]
  · intro d member
    exact (upholds d member).congr fun e => by rw [contributed_iff]

/-- A lineup in which one package comes in by each way. What the generator needs is gone with its
output, as the adapter returns an output of its own. -/
def gathering : Lineup where
  generators := [{
    info := { name := "rest", version := "1" }
    style := .rest
    generate _ _ := .ok { dependencies := [{ name := "zod", version := "^9.0.0" }] } }]
  adapter := some {
    info := { name := "wiring", version := "1" }
    framework := "none"
    adapt _ _ := .ok { dependencies := [{ name := "zod", version := "~3.22.0-rc.1" }] } }
  auth := [{ Stub.new "tokens" with
    dependencies := [{ name := "zod", version := "^3.22", kind := some .devDependencies }] }.auth]
  deploy := [{ Stub.new "image" with
    peerDependencies := [{ name := "zod", version := "3.4.0", dev := some false }] }.deploy]

theorem dependencies_generateFrom_gathering :
    ∃ bundle, (gathering.generateFrom ⟨0, 0⟩ (Schema.new {} [] []) {}).result = .ok bundle ∧
      bundle.dependencies = [⟨"zod", "^3.22", some .dependencies, some false⟩] ∧
      ∀ d ∈ bundle.dependencies, Upholds (fun e => gathering.Contributed
        (gathering.generateFrom ⟨0, 0⟩ (Schema.new {} [] []) {}).calls e ∧ e.name = d.name) d := by
  obtain ⟨bundle, ended, packages⟩ : ∃ bundle : Bundle,
      (gathering.generateFrom ⟨0, 0⟩ (Schema.new {} [] []) {}).result = .ok bundle ∧
        bundle.dependencies = [⟨"zod", "^3.22", some .dependencies, some false⟩] :=
    ⟨_, rfl, by decide⟩
  exact ⟨bundle, ended, packages, (dependencies_generateFrom ended).2.2⟩

end Lineup

end Scaffold
