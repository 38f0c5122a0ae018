import Scaffold.Proofs.Bundle.Records
import Scaffold.Proofs.Lineup.Middleware
import Scaffold.Proofs.Lineup.Packages

/-!
What a run returns is read back from its tree, as long as no plugin returns an extra entry under the
key of another member of the metadata. A run adds only the list of middleware, and that has a key of
its own.
-/

namespace Scaffold

open Scaffold.Bundle (mergeAll)

namespace Run

/-- What plugins have returned to be merged. -/
def outputs (run : Run α) : List Bundle :=
  run.calls.filterMap Call.output?

/-- If no output has an extra entry in the place of another member, neither has what the run returns;
it is read back from its tree if its time is. -/
def Rereads (now : Instant) (run : Run Bundle) : Prop :=
  (∀ output ∈ run.outputs, output.Apart) → ∀ b, run.result = .ok b →
    b.Apart ∧ (Instant.parse? now.text = some now → Bundle.ofJson? b.toJson = some b)

end Run

namespace Lineup

variable {l : Lineup} {schema : Schema} {options : GenerationOptions}

theorem outputs_of_kept {calls : List Call} {b : Bundle} (member : b ∈ l.kept calls) :
    b ∈ calls.filterMap Call.output? := by
  unfold kept at member
  cases present : l.adapter with
  | none =>
      rw [present] at member
      exact member
  | some a =>
      rw [present] at member
      exact ((List.dropWhile_sublist _).filterMap _).mem member

theorem timeReads_finish {now : Instant} (full : Bundle)
    (clock : Instant.parse? now.text = some now) : (l.finish now full).TimeReads := by
  intro m present t taken
  cases present
  cases taken
  exact clock

theorem apart_finish {now : Instant} {full : Bundle} (apart : full.Apart) :
    (l.finish now full).Apart := by
  have before : ({} : BundleMetadata).Apart := fun _ _ => rfl
  have merged : (full.metadata.getD {}).Apart := by
    cases present : full.metadata with
    | none => exact before
    | some m => exact apart m present
  intro m present key own
  cases present
  have other : key ≠ "middleware" := by
    rintro rfl
    exact absurd own (by decide)
  rw [(l.registers_finishExtra (full.metadata.getD {}).extra).others key other]
  exact merged key own

theorem rereads_generateFrom (now : Instant) :
    (l.generateFrom now schema options).Rereads now := by
  intro outputs b ended
  obtain ⟨full, performed, rfl⟩ := map_eq_ok_iff.1 ended
  have kept : ∀ b ∈ l.kept (l.perform schema options l.plan .empty).calls, b.Apart :=
    fun b member => outputs b (outputs_of_kept member)
  have apart : (l.finish now full).Apart :=
    apart_finish (Bundle.Describes.mergeAll .merge kept (mergeAll_kept performed))
  exact ⟨apart, fun clock => Bundle.ofJson?_toJson apart (timeReads_finish full clock)⟩

theorem rereads_generate (now : Instant) (source : Source) (path : Option String) :
    (l.generate now source path options).Rereads now := by
  intro outputs b ended
  rw [generate_eq_andThen] at outputs ended
  obtain ⟨schema, parsed, finished⟩ := Run.result_andThen_eq_ok_iff.1 ended
  refine rereads_generateFrom now (fun output member => outputs output ?_) b finished
  rw [Run.outputs, Run.calls_andThen parsed, List.filterMap_append]
  exact List.mem_append_right _ member

/-- A bundle is read back from its tree just if no extra entry has the key of another member of its
metadata. A bundle that was read is like this, and so are one that is merged from such bundles and
one that a run returns to which plugins return such bundles. -/
theorem results_reread :
    (∀ b : Bundle, b.TimeReads → (Bundle.ofJson? b.toJson = some b ↔ b.Apart)) ∧
    (∀ j b, Bundle.ofJson? j = some b →
      b.Apart ∧ (b.TimeReads → Bundle.ofJson? b.toJson = some b)) ∧
    (∀ strategy (earlier later merged : Bundle), earlier.Apart → later.Apart →
      Bundle.merge strategy earlier later = .ok merged →
      merged.Apart ∧ (earlier.TimeReads → later.TimeReads →
        Bundle.ofJson? merged.toJson = some merged)) ∧
    (∀ strategy (bundles : List Bundle) merged, (∀ b ∈ bundles, b.Apart) →
      mergeAll strategy bundles = .ok merged →
      merged.Apart ∧ ((∀ b ∈ bundles, b.TimeReads) →
        Bundle.ofJson? merged.toJson = some merged)) ∧
    (∀ (l : Lineup) now schema options, (l.generateFrom now schema options).Rereads now) ∧
    ∀ (l : Lineup) now source path options,
      (l.generate now source path options).Rereads now := by
  refine ⟨fun b => Bundle.ofJson?_toJson_iff, ?_, ?_, ?_,
    fun l now schema options => rereads_generateFrom now,
    fun l now source path options => rereads_generate now source path⟩
  · intro j b read
    have apart := Bundle.apart_of_ofJson? read
    exact ⟨apart, Bundle.ofJson?_toJson apart⟩
  · intro strategy earlier later merged first second ended
    have apart : merged.Apart := first.merge .merge second ended
    exact ⟨apart, fun before after =>
      Bundle.ofJson?_toJson apart (Bundle.Describes.merge .merge before after ended)⟩
  · intro strategy bundles merged each ended
    have apart : merged.Apart := Bundle.Describes.mergeAll .merge each ended
    exact ⟨apart, fun times =>
      Bundle.ofJson?_toJson apart (Bundle.Describes.mergeAll .merge times ended)⟩

theorem results_reread_guarded :
    ∃ bundle, (guarded.generate ⟨0, 0⟩ (.text "") none {}).result = .ok bundle ∧
      bundle.metadata.map (·.extra.keys) = some ["middleware", "note"] ∧ bundle.Apart ∧
      Bundle.ofJson? bundle.toJson = some bundle := by
  obtain ⟨bundle, ended, keys⟩ := guarded_ends
  have outputs : ∀ output ∈ (guarded.generate ⟨0, 0⟩ (.text "") none {}).outputs,
      output.Apart := by
    decide
  have clock : Instant.parse? (Instant.text ⟨0, 0⟩) = some ⟨0, 0⟩ := by decide
  obtain ⟨-, -, -, -, -, rereads⟩ := results_reread
  obtain ⟨apart, back⟩ := rereads guarded ⟨0, 0⟩ (.text "") none {} outputs bundle ended
  exact ⟨bundle, ended, keys, apart, back clock⟩

end Lineup

end Scaffold
