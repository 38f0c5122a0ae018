import Scaffold.Proofs.Lineup.Perform

/-!
No path and no package stands twice in a bundle that a run hands to a plugin or returns, whatever
its plugins make. A run starts from the empty bundle, and so does the merge of what an adapter
returns; merging keeps the bundle that it starts from free of repetitions.
-/

namespace Scaffold

/-- No bundle that is handed to a plugin has a path or a package twice, nor has the one that is
returned. -/
structure Run.Distinct (r : Run Bundle) : Prop where
  handed : ∀ plugin bundle, (plugin, bundle) ∈ r.handed → bundle.Distinct
  returned : ∀ bundle, r.result = .ok bundle → bundle.Distinct

namespace Step

theorem distinct_base (s : Step) {bundle : Bundle} (distinct : bundle.Distinct) :
    (s.base bundle).Distinct := by
  cases s with
  | adapter a => exact Bundle.distinct_empty
  | generator | auth | database | migrations | deploy => exact distinct

theorem distinct_advance {s : Step} {strategy : MergeStrategy} {input : StepInput} {next : Bundle}
    (distinct : input.bundle.Distinct) (advanced : s.advance strategy input = .ok next) :
    next.Distinct := by
  rcases advance_eq_ok_iff.1 advanced with ⟨-, rfl⟩ | ⟨output, -, merged⟩
  · exact distinct
  · exact Bundle.distinct_merge (s.distinct_base distinct) merged

end Step

namespace Lineup

variable (l : Lineup)

theorem distinct_perform (schema : Schema) (options : GenerationOptions) (steps : List Step)
    {bundle : Bundle} (distinct : bundle.Distinct) :
    (l.perform schema options steps bundle).Distinct := by
  obtain ⟨asked, ended⟩ := l.perform_keeps schema options
    (fun s (_ : s ∈ steps) b next (holds : b.Distinct) advanced =>
      Step.distinct_advance holds advanced) distinct
  refine ⟨?_, ended⟩
  intro plugin handed member
  obtain ⟨c, called, hands⟩ := List.mem_filterMap.1 member
  obtain ⟨s, -, b, holds, rfl⟩ := asked c called
  obtain ⟨reader, -, same⟩ := Option.map_eq_some_iff.1 hands
  cases same
  exact holds

theorem distinct_finish (now : Instant) {bundle : Bundle} (distinct : bundle.Distinct) :
    (l.finish now bundle).Distinct :=
  ⟨distinct.paths, nodup_mergeDependencies l.declaredDependencies distinct.names⟩

theorem distinct_generateFrom (now : Instant) (schema : Schema) (options : GenerationOptions) :
    (l.generateFrom now schema options).Distinct := by
  have run := l.distinct_perform schema options l.plan Bundle.distinct_empty
  refine ⟨run.handed, ?_⟩
  intro bundle ended
  obtain ⟨full, merged, rfl⟩ := map_eq_ok_iff.1 ended
  exact l.distinct_finish now (run.returned full merged)

theorem handed_parse (source : Source) (path : Option String) :
    (l.parse source path).handed = [] := by
  unfold parse
  cases l.parser <;> rfl

theorem generate_eq_andThen (now : Instant) (source : Source) (path : Option String)
    (options : GenerationOptions) :
    l.generate now source path options =
      (l.parse source path).andThen fun schema => l.generateFrom now schema options := by
  unfold generate Run.andThen
  cases l.parse source path with
  | mk calls result => cases result <;> rfl

/-- No path and no package stands twice in what a run hands to an adapter or to a deploy plugin, nor
in what it returns, whether it starts from a schema or from a source, and whether it ends well or
not. -/
theorem distinct_generate (now : Instant) (options : GenerationOptions) :
    (∀ schema, (l.generateFrom now schema options).Distinct) ∧
      ∀ source path, (l.generate now source path options).Distinct := by
  refine ⟨fun schema => l.distinct_generateFrom now schema options, ?_⟩
  intro source path
  rw [generate_eq_andThen]
  constructor
  · intro plugin bundle member
    cases parsed : (l.parse source path).result with
    | error e =>
        rw [Run.handed_andThen_error parsed, handed_parse] at member
        cases member
    | ok schema =>
        rw [Run.handed_andThen parsed, handed_parse, List.nil_append] at member
        exact (l.distinct_generateFrom now schema options).handed plugin bundle member
  · intro bundle ended
    obtain ⟨schema, -, finished⟩ := Run.result_andThen_eq_ok_iff.1 ended
    exact (l.distinct_generateFrom now schema options).returned bundle finished

end Lineup

end Scaffold
