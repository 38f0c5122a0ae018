import Scaffold.Proofs.Merge.Prevailing

/-!
What holds of a package however its entries are bracketed: it keeps a version that one of them has,
no lower one than it has to, and is needed at run time if one of them says so.
-/

namespace Scaffold

namespace Dependency

theorem above_congr {d e f : Dependency} (same : e.version = f.version) :
    d.Above e ↔ d.Above f := by
  unfold Above
  rw [same]

theorem above_congr_left {d e f : Dependency} (same : d.version = e.version) :
    d.Above f ↔ e.Above f := by
  unfold Above
  rw [same]

theorem readable_congr {d e : Dependency} (same : d.version = e.version) :
    d.Readable ↔ e.Readable := by
  unfold Readable
  rw [same]

theorem not_above_trans {d e f : Dependency} (readable : e.Readable) (below : ¬d.Above e)
    (lower : ¬e.Above f) : ¬d.Above f :=
  fun above => lower (above_of_not_above_of_above readable below above)

theorem not_above_self (d : Dependency) : ¬d.Above d :=
  fun above => above.asymm above

theorem not_above_prevailing (a b : Dependency) :
    ¬a.Above (prevailing a b) ∧ ¬b.Above (prevailing a b) := by
  by_cases above : b.Above a
  · rw [prevailing_of_above above]
    exact ⟨above.asymm, b.not_above_self⟩
  · rw [prevailing_of_not_above above]
    exact ⟨a.not_above_self, above⟩

/-- `d` does justice to all entries of a package: it has the version of one of them, a highest one
if all can be read, and is needed at run time if one of them is. -/
structure Upholds (Entry : Dependency → Prop) (d : Dependency) : Prop where
  version : ∃ e, Entry e ∧ e.version = d.version
  highest : (∀ e, Entry e → e.Readable) → ∀ e, Entry e → ¬e.Above d
  runtime : ∀ e, Entry e → e.dev = some false → d.dev = some false

namespace Upholds

variable {Entry Other : Dependency → Prop}

theorem congr {d : Dependency} (upholds : Upholds Entry d) (same : ∀ e, Entry e ↔ Other e) :
    Upholds Other d :=
  funext (fun e => propext (same e)) ▸ upholds

theorem readable {d : Dependency} (upholds : Upholds Entry d)
    (readable : ∀ e, Entry e → e.Readable) : d.Readable := by
  obtain ⟨e, entry, same⟩ := upholds.version
  exact (readable_congr same).1 (readable e entry)

/-- Two that do justice to the same entries have versions of one precedence, if not one text. -/
theorem precedence_eq {d e : Dependency} (first : Upholds Entry d) (second : Upholds Entry e)
    (readable : ∀ x, Entry x → x.Readable) :
    ∃ v w, Version.parse d.version = .ok v ∧ Version.parse e.version = .ok w ∧
      v.precedence w = .eq := by
  obtain ⟨v, left⟩ := first.readable readable
  obtain ⟨w, right⟩ := second.readable readable
  obtain ⟨x, entry, same⟩ := first.version
  obtain ⟨y, other, same'⟩ := second.version
  have notAbove : ¬d.Above e := (above_congr_left same).not.1 (second.highest readable x entry)
  have notBelow : ¬e.Above d := (above_congr_left same').not.1 (first.highest readable y other)
  rw [above_iff left right, Version.not_above_iff] at notAbove
  rw [above_iff right left, Version.not_above_iff_isGE] at notBelow
  refine ⟨v, w, left, right, ?_⟩
  cases order : v.precedence w with
  | eq => rfl
  | lt => simp [order] at notBelow
  | gt => simp [order] at notAbove

theorem alone (d : Dependency) : Upholds (· = d) d where
  version := ⟨d, rfl, rfl⟩
  highest := by
    rintro - e rfl
    exact not_above_self e
  runtime := by
    rintro e rfl needed
    exact needed

theorem resolve {a b : Dependency} (first : Upholds Entry a) (second : Upholds Other b) :
    Upholds (fun e => Entry e ∨ Other e) (a.resolve b) where
  version := by
    rw [version_resolve]
    rcases prevailing_cases a b with kept | kept
    · rw [kept]
      obtain ⟨e, entry, same⟩ := first.version
      exact ⟨e, .inl entry, same⟩
    · rw [kept]
      obtain ⟨e, entry, same⟩ := second.version
      exact ⟨e, .inr entry, same⟩
  highest := by
    intro readable e entry
    have left : ∀ e, Entry e → e.Readable := fun e entry => readable e (.inl entry)
    have right : ∀ e, Other e → e.Readable := fun e entry => readable e (.inr entry)
    obtain ⟨notFirst, notSecond⟩ := not_above_prevailing a b
    rw [above_congr (version_resolve a b)]
    rcases entry with entry | entry
    · exact not_above_trans (first.readable left) (first.highest left e entry) notFirst
    · exact not_above_trans (second.readable right) (second.highest right e entry) notSecond
  runtime := by
    intro e entry needed
    exact (forRuntime_resolve a b).2 (entry.imp (first.runtime e · needed)
      (second.runtime e · needed))

end Upholds

theorem keptBy_upholds : KeptBy resolve fun entries d => Upholds (· ∈ entries) d where
  alone := fun d => (Upholds.alone d).congr fun _ => List.mem_singleton.symm
  both := fun _ _ _ _ first second => (first.resolve second).congr fun _ => List.mem_append.symm

end Dependency

open Dependency

/-- Two lists of dependencies merged apart and then together: each package of either once, with an
entry that does justice to all that both lists say of it. -/
theorem mergeDependencies_upholds (ds more : List Dependency) :
    (mergeDependencies (mergeDependencies [] ds) (mergeDependencies [] more)).map (·.name) =
      ((ds ++ more).map (·.name)).eraseDups ∧
    ∀ d ∈ mergeDependencies (mergeDependencies [] ds) (mergeDependencies [] more),
      Upholds (fun e => e ∈ ds ++ more ∧ e.name = d.name) d := by
  simp only [mergeDependencies_eq_settleAll]
  refine ⟨map_settleAll_settleAll keepsName ds more, ?_⟩
  intro d member
  have distinct := nodup_settleAll keepsName (settleAll (·.name) resolve [] more)
    (nodup_settleAll_nil keepsName ds)
  have found := find?_eq_some_of_mem distinct member
  rw [find?_settleAll_settleAll keepsName] at found
  refine (keptBy_upholds.settleBoth found).congr fun e => ?_
  rw [← List.filter_append, List.mem_filter, decide_eq_true_iff]

end Scaffold
