import Mathlib.Data.List.Nodup
import Scaffold.Config.Basic

/-!
What a configuration that is accepted lists: entries that are not blank, none of them twice.
-/

namespace Scaffold.Config

theorem entryProblems_eq_nil_iff {key : String} {seen entries : List String} :
    entryProblems key seen entries = [] ↔
      (∀ entry ∈ entries, Text.blank entry = false) ∧ entries.Nodup ∧
        ∀ entry ∈ entries, entry ∉ seen := by
  induction entries generalizing seen with
  | nil => simp [entryProblems]
  | cons entry entries ih =>
      rw [entryProblems, List.forall_mem_cons, List.nodup_cons, List.forall_mem_cons]
      by_cases blank : Text.blank entry
      · simp [blank]
      by_cases known : entry ∈ seen
      · simp [blank, known]
      rw [if_neg blank, if_neg (by simpa using known), ih]
      constructor
      · rintro ⟨filled, nodup, fresh⟩
        have absent : entry ∉ entries := fun later => fresh entry later List.mem_cons_self
        exact ⟨⟨Bool.eq_false_iff.2 blank, filled⟩, ⟨absent, nodup⟩, known,
          fun e member earlier => fresh e member (.tail _ earlier)⟩
      · rintro ⟨⟨-, filled⟩, ⟨absent, nodup⟩, -, fresh⟩
        refine ⟨filled, nodup, fun e member earlier => ?_⟩
        rcases List.mem_cons.1 earlier with rfl | before
        · exact absent member
        · exact fresh e member before

variable {c : Config}

theorem eq_of_validate {d : Config} (valid : c.validate = .ok d) : d = c := by
  unfold validate at valid
  split at valid
  · exact (Except.ok.inj valid).symm
  · cases valid

theorem validate_of_fine (none : c.problems = []) : c.validate = .ok c :=
  if_pos (List.isEmpty_iff.2 none)

theorem validate_of_problems (some : c.problems ≠ []) :
    c.validate = .error (.invalid c.problems) :=
  if_neg (List.isEmpty_iff.not.2 some)

theorem problems_of_validate (valid : c.validate = .ok c) : c.problems = [] := by
  unfold validate at valid
  split at valid
  · next none => exact List.isEmpty_iff.1 none
  · cases valid

end Scaffold.Config
