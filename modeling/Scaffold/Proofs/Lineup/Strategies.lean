import Scaffold.Plugin.Stub
import Scaffold.Proofs.Lineup.Perform

/-!
Strategies differ on collisions only. A run that ends well where collisions are errors goes the same
way under any strategy: each step finds the bundle that it found there and leaves the same one.
-/

namespace Scaffold

theorem Step.advance_of_strict (strategy : MergeStrategy) {s : Step} {input : StepInput}
    {next : Bundle} (strict : s.advance .error input = .ok next) :
    s.advance strategy input = .ok next := by
  rw [advance_eq_ok_iff] at strict ⊢
  rcases strict with absent | ⟨output, answered, merged⟩
  · exact .inl absent
  · exact .inr ⟨output, answered, Bundle.merge_of_strict strategy merged⟩

namespace Lineup

variable {l : Lineup} {schema : Schema} {options : GenerationOptions}

theorem perform_of_strict (strategy : MergeStrategy) {steps : List Step} {start final : Bundle}
    (strict : ({ l with strategy := .error }.perform schema options steps start).result =
      .ok final) :
    { l with strategy }.perform schema options steps start =
      { l with strategy := .error }.perform schema options steps start := by
  induction steps generalizing start with
  | nil => rfl
  | cons s steps ih =>
      obtain ⟨next, advanced, rest⟩ := (result_perform_cons _ schema options).1 strict
      have same := Step.advance_of_strict strategy advanced
      rw [perform_cons, perform_cons]
      unfold single
      rw [advanced, same, Run.andThen_ok, Run.andThen_ok, ih rest]

/-- Where no collision stops a run under the strictest strategy, the strategy makes no difference:
the same plugins are asked, each with the same code, and the same bundle is returned up to the time
at which it was made. -/
theorem generateFrom_of_strict {now : Instant} {bundle : Bundle}
    (ended : ({ l with strategy := .error }.generateFrom now schema options).result = .ok bundle)
    (strategy : MergeStrategy) (later : Instant) :
    let strict := { l with strategy := .error }.generateFrom now schema options
    let run := { l with strategy }.generateFrom later schema options
    run.calls = strict.calls ∧ run.handed = strict.handed ∧
      run.result = .ok { bundle with
        metadata := bundle.metadata.map ({ · with generatedAt := some later }) } := by
  intro strict run
  obtain ⟨full, performed, rfl⟩ := map_eq_ok_iff.1 ended
  have same : { l with strategy }.perform schema options l.plan .empty =
      { l with strategy := .error }.perform schema options l.plan .empty :=
    perform_of_strict strategy performed
  have calls : run.calls = strict.calls := by
    rw [generateFrom_calls, generateFrom_calls]
    exact congrArg Run.calls same
  refine ⟨calls, congrArg (List.filterMap Call.handed?) calls, ?_⟩
  have result : run.result = (Except.ok full).map ({ l with strategy }.finish later) := by
    rw [generateFrom_result, ← performed]
    exact congrArg (fun r : Run Bundle => r.result.map _) same
  exact result

/-- A lineup whose plugins keep out of each other's way: the deploy plugins name what they write
after what they are handed. -/
def orderly : Lineup where
  generators := [{ Stub.new "rest" with files := [{ path := "api", content := "open" }] }.generator]
  adapter := some { Stub.new "wiring" with files := [{ path := "app", content := "wired" }] }.adapter
  auth := [{ Stub.new "tokens" with files := [{ path := "auth", content := "keys" }] }.auth]
  deploy := [1, 2].map fun copy => {
    info := { name := "backup", version := "1", priority := copy }
    target := "none"
    generate bundle _ := .ok {
      files := bundle.files.map fun file => { file with path := file.path ++ copy.repr } } }

theorem generateFrom_of_strict_orderly :
    ∃ bundle, ({ orderly with strategy := .error }.generateFrom ⟨0, 0⟩
        (Schema.new {} [] []) {}).result = .ok bundle ∧
      bundle.paths = ["api", "app", "auth", "api1", "app1", "auth1", "api2", "app2", "auth2",
        "api12", "app12", "auth12"] ∧
      (orderly.generateFrom ⟨1, 0⟩ (Schema.new {} [] []) {}).result = .ok { bundle with
        metadata := bundle.metadata.map ({ · with generatedAt := some ⟨1, 0⟩ }) } := by
  obtain ⟨bundle, ended, paths⟩ : ∃ bundle : Bundle,
      ({ orderly with strategy := .error }.generateFrom ⟨0, 0⟩ (Schema.new {} [] []) {}).result =
        .ok bundle ∧
      bundle.paths = ["api", "app", "auth", "api1", "app1", "auth1", "api2", "app2", "auth2",
        "api12", "app12", "auth12"] := ⟨_, rfl, by decide⟩
  exact ⟨bundle, ended, paths, (generateFrom_of_strict ended .lastWins ⟨1, 0⟩).2.2⟩

end Lineup

end Scaffold
