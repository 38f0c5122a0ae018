import Scaffold.Plugin.Stub
import Scaffold.Proofs.Lineup.Distinct
import Scaffold.Proofs.Lineup.Priority

/-!
Runs stop at the first failure. The calls of a run follow a fixed order; a run that breaks off has
made no call after the one that fails, and returns what that call fails with.
-/

namespace Scaffold

/-- Who is asked in a call. -/
inductive Asked where
  | parser (p : Parser)
  | step (s : Step)

namespace Call

def asked : Call → Asked
  | .parse p _ _ => .parser p
  | .perform s _ => .step s

/-- A call fails with an error: that of the plugin, or that of a collision, which names the path of
the first file of the output that was there before. -/
inductive Fails (strategy : MergeStrategy) : Call → RunError → Prop
  | parser {p : Parser} {source : Source} {options : ParseOptions} {e : PluginError} :
      p.parse source options = .error e →
      Fails strategy (.parse p source options) (.parser p.info.name e)
  | plugin {s : Step} {input : StepInput} {e : PluginError} :
      s.answer input = .error e → Fails strategy (.perform s input) (.plugin e)
  | collision {s : Step} {input : StepInput} {output : Bundle} {before after : List OutputFile}
      {file : OutputFile} :
      strategy = .error → s.answer input = .ok (some output) →
      output.files = before ++ file :: after →
      (((s.base input.bundle).files ++ before).map (·.path)).Nodup →
      file.path ∈ ((s.base input.bundle).files ++ before).map (·.path) →
      Fails strategy (.perform s input) (.merge (.fileConflict file.path))

end Call

/-- The calls of a run follow an order up to the first that fails, and then the run returns what
that one fails with; if none fails they are all there, and the run ends well. -/
inductive Run.FailStop (strategy : MergeStrategy) (order : List Asked) (r : Run α) : Prop
  | completed {a : α} :
      r.result = .ok a → r.calls.map Call.asked = order →
      (∀ c ∈ r.calls, ∀ e, ¬c.Fails strategy e) → FailStop strategy order r
  | failed (before : List Call) {last : Call} {e : RunError} :
      r.result = .error e → r.calls.map Call.asked <+: order → r.calls = before ++ [last] →
      (∀ c ∈ before, ∀ e, ¬c.Fails strategy e) → last.Fails strategy e →
      FailStop strategy order r

namespace Run.FailStop

variable {strategy : MergeStrategy} {order : List Asked}

theorem trace {r : Run α} (stops : r.FailStop strategy order) :
    r.calls.map Call.asked <+: order := by
  cases stops with
  | completed _ all _ => exact all ▸ List.prefix_rfl
  | failed _ _ trace _ _ _ => exact trace

theorem andThen {more : List Asked} {r : Run α} {next : α → Run β}
    (first : r.FailStop strategy order)
    (second : ∀ a, r.result = .ok a → (next a).FailStop strategy more) :
    (r.andThen next).FailStop strategy (order ++ more) := by
  obtain ⟨calls, result⟩ := r
  cases first with
  | failed before broke trace split fine fails =>
      cases broke
      exact .failed before rfl (trace.trans (List.prefix_append order more)) split fine fails
  | completed ended all fine =>
      cases ended
      rw [andThen_ok]
      cases second _ rfl with
      | completed ended rest later =>
          refine .completed ended ?_ ?_
          · rw [List.map_append, all, rest]
          · intro c member
            exact (List.mem_append.1 member).elim (fine c) (later c)
      | failed before broke trace split later fails =>
          refine .failed (calls ++ before) broke ?_ ?_ ?_ fails
          · rw [List.map_append, all]
            exact (List.prefix_append_right_inj order).2 trace
          · rw [split, List.append_assoc]
          · intro c member
            exact (List.mem_append.1 member).elim (fine c) (later c)

theorem single {r : Run α} (c : Call) (only : r.calls = [c])
    (fails : ∀ e, r.result = .error e → c.Fails strategy e)
    (fine : ∀ a, r.result = .ok a → ∀ e, ¬c.Fails strategy e) :
    r.FailStop strategy [c.asked] := by
  have asked : r.calls.map Call.asked = [c.asked] := congrArg (List.map Call.asked) only
  cases ended : r.result with
  | error e =>
      exact .failed [] ended (asked ▸ List.prefix_rfl) only (List.forall_mem_nil _) (fails e ended)
  | ok a =>
      refine .completed ended asked ?_
      rw [only]
      exact List.forall_mem_singleton.2 (fine a ended)

theorem map {calls : List Call} {result : Except RunError α}
    (stops : Run.FailStop strategy order ⟨calls, result⟩) (f : α → β) :
    Run.FailStop strategy order ⟨calls, result.map f⟩ := by
  cases stops with
  | completed ended all fine =>
      cases ended
      exact .completed rfl all fine
  | failed before broke trace split fine fails =>
      cases broke
      exact .failed before rfl trace split fine fails

end Run.FailStop

namespace Step

variable {s : Step} {strategy : MergeStrategy} {input : StepInput}

theorem fails_of_advance_eq_error {e : RunError} (distinct : input.bundle.Distinct)
    (failed : s.advance strategy input = .error e) : (Call.perform s input).Fails strategy e := by
  unfold advance at failed
  cases answered : s.answer input with
  | error fault =>
      rw [answered] at failed
      cases failed
      exact .plugin answered
  | ok output =>
      rw [answered] at failed
      cases output with
      | none => cases failed
      | some output =>
          obtain ⟨fault, merged, rfl⟩ := mapError_eq_error_iff.1 failed
          obtain ⟨strict, before, file, after, split, early, known, rfl⟩ :=
            mergeFiles_eq_error_cases (s.distinct_base distinct).paths
              (Bundle.merge_eq_error_iff.1 merged)
          exact .collision strict answered split early known

theorem not_fails_of_advance_eq_ok {next : Bundle} (advanced : s.advance strategy input = .ok next)
    (e : RunError) : ¬(Call.perform s input).Fails strategy e := by
  intro fails
  rcases advance_eq_ok_iff.1 advanced with ⟨answered, -⟩ | ⟨output, answered, merged⟩
  · cases fails with
    | plugin failed =>
        rw [answered] at failed
        cases failed
    | collision _ returned _ _ _ =>
        rw [answered] at returned
        cases returned
  · cases fails with
    | plugin failed =>
        rw [answered] at failed
        cases failed
    | collision strict returned split early known =>
        rw [answered] at returned
        cases returned
        subst strict
        have conflict := mergeFiles_error_of_repeat early known
        rw [Bundle.merge_eq_error_iff.2 (split ▸ conflict _)] at merged
        cases merged

end Step

namespace Lineup

variable (l : Lineup)

theorem failStop_single (schema : Schema) (options : GenerationOptions) (s : Step)
    {bundle : Bundle} (distinct : bundle.Distinct) :
    (l.single schema options s bundle).FailStop l.strategy [.step s] := by
  apply Run.FailStop.single (.perform s ⟨schema, options, bundle⟩) rfl
  · exact fun e failed => Step.fails_of_advance_eq_error distinct failed
  · exact fun next advanced => Step.not_fails_of_advance_eq_ok advanced

theorem failStop_perform (schema : Schema) (options : GenerationOptions) (steps : List Step)
    {bundle : Bundle} (distinct : bundle.Distinct) :
    (l.perform schema options steps bundle).FailStop l.strategy (steps.map .step) := by
  induction steps generalizing bundle with
  | nil => exact .completed rfl rfl (List.forall_mem_nil _)
  | cons s steps ih =>
      rw [perform_cons]
      apply (l.failStop_single schema options s distinct).andThen
      intro next advanced
      exact ih (Step.distinct_advance distinct advanced)

theorem failStop_parse {p : Parser} (present : l.parser = some p) (source : Source)
    (path : Option String) : (l.parse source path).FailStop l.strategy [.parser p] := by
  unfold parse
  rw [present]
  apply Run.FailStop.single (.parse p source ⟨path, l.strict⟩) rfl
  · intro e failed
    obtain ⟨fault, refused, rfl⟩ := mapError_eq_error_iff.1 failed
    exact .parser refused
  · intro schema parsed e fails
    cases fails with
    | parser refused =>
        rw [mapError_eq_ok_iff, refused] at parsed
        cases parsed

/-- Who may be asked in a run with the plugins of three kinds in a given order: the parser, the
generators, the adapter, the auth plugins, the database plugin, which is asked for migrations too if
there is a schema of the run before, and the deploy plugins. -/
def asking (generators : List Generator) (auth : List Auth) (deploy : List Deploy) : List Asked :=
  let steps : List Step :=
    generators.map .generator
      ++ l.adapter.toList.map .adapter
      ++ auth.map .auth
      ++ l.database.toList.flatMap (fun d =>
        .database d :: l.previous.toList.map (.migrations d))
      ++ deploy.map .deploy
  l.parser.toList.map .parser ++ steps.map .step

/-- Who may be asked, plugins of a kind as they run. -/
def order : List Asked :=
  l.asking l.orderedGenerators l.orderedAuth l.orderedDeploy

/-- Who may be asked, plugins of a kind as they were registered. -/
def entries : List Asked :=
  l.asking l.generators l.auth l.deploy

theorem order_eq : l.order = l.parser.toList.map .parser ++ l.plan.map .step := rfl

theorem order_perm_entries : l.order.Perm l.entries := by
  have generators : l.orderedGenerators.Perm l.generators := sortByRank_perm _ _
  have auth : l.orderedAuth.Perm l.auth := sortByRank_perm _ _
  have deploy : l.orderedDeploy.Perm l.deploy := sortByRank_perm _ _
  unfold order entries asking
  exact .append_left _ <| .map _ <| (((generators.map _).append_right _).append
    (auth.map _)).append_right _ |>.append (deploy.map _)

theorem failStop_generate {p : Parser} (present : l.parser = some p) (now : Instant)
    (source : Source) (path : Option String) (options : GenerationOptions) :
    (l.generate now source path options).FailStop l.strategy l.order := by
  rw [generate_eq_andThen, order_eq, present]
  refine (l.failStop_parse present source path).andThen fun schema _ => ?_
  exact (l.failStop_perform schema options l.plan Bundle.distinct_empty).map (l.finish now)

theorem generate_of_parser_eq_none (absent : l.parser = none) (now : Instant) (source : Source)
    (path : Option String) (options : GenerationOptions) :
    l.generate now source path options = ⟨[], .error .noParser⟩ := by
  unfold generate parse
  rw [absent]

/-- The calls of a run follow the order of its plugins, with those of a kind by priority and then by
registration, and none is asked more often than it was registered. Without a parser there is no call
at all. With one the run either comes to its end, all having been asked, or it breaks off with the
first call that fails, and returns what that one fails with. -/
theorem generate_failStop (now : Instant) (source : Source) (path : Option String)
    (options : GenerationOptions) :
    let run := l.generate now source path options
    run.calls.map Call.asked <+: l.order ∧
    (run.calls.map Call.asked).Subperm l.entries ∧
    StablySorted (·.info.priority) l.generators l.orderedGenerators ∧
    StablySorted (·.info.priority) l.auth l.orderedAuth ∧
    StablySorted (·.info.priority) l.deploy l.orderedDeploy ∧
    (l.parser = none → run.calls = [] ∧ run.result = .error .noParser) ∧
    (l.parser ≠ none → run.FailStop l.strategy l.order) := by
  intro run
  have trace : run.calls.map Call.asked <+: l.order := by
    cases present : l.parser with
    | none =>
        rw [show run = _ from l.generate_of_parser_eq_none present now source path options]
        exact List.nil_prefix
    | some p => exact (l.failStop_generate present now source path options).trace
  refine ⟨trace, trace.sublist.subperm.trans l.order_perm_entries.subperm,
    l.stablySorted_orderedGenerators, l.stablySorted_orderedAuth, l.stablySorted_orderedDeploy,
    ?_, ?_⟩
  · intro absent
    rw [show run = _ from l.generate_of_parser_eq_none absent now source path options]
    exact ⟨rfl, rfl⟩
  · intro present
    obtain ⟨p, present⟩ := Option.ne_none_iff_exists'.1 present
    exact l.failStop_generate present now source path options

/-- A file that comes again ends a run where that is an error, and the deploy plugin is not asked. -/
example :
    let files : List OutputFile := [{ path := "api.ts", content := "" }]
    let l : Lineup := {
      parser := some (Stub.new "schema").parser
      generators := [{ Stub.new "rest" with files }.generator,
        { Stub.new "again" with files }.generator]
      deploy := [(Stub.new "image").deploy]
      strategy := .error }
    let run := l.generate ⟨0, 0⟩ (.text "") none {}
    (run.calls.length, run.result) = (3, .error (.merge (.fileConflict "api.ts"))) := by
  rfl

end Lineup

end Scaffold
