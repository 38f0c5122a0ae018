import Scaffold.Proofs.Lineup.Perform

/-!
Rows of plugins of one kind: each is asked in its turn, with all that was merged before it, and what
it returns is merged into that.
-/

namespace Scaffold

/-- A row of plugins that are asked in turn: `seen` is what each of them is asked with, the merge of
the start and of all that those before it returned, and `outputs` is what each of them returns. -/
structure InTurn (strategy : MergeStrategy) (ask : α → Bundle → Except PluginError Bundle)
    (as : List α) (start : Bundle) (seen outputs : List Bundle) : Prop where
  seen_length : seen.length = as.length
  outputs_length : outputs.length = as.length
  seen_merged : ∀ (j : Nat) b, seen[j]? = some b →
    (outputs.take j).foldlM (Bundle.merge strategy) start = .ok b
  answered : ∀ (j : Nat) a b output, as[j]? = some a → seen[j]? = some b →
    outputs[j]? = some output → ask a b = .ok output

namespace InTurn

variable {strategy : MergeStrategy} {ask : α → Bundle → Except PluginError Bundle}

theorem nil (start : Bundle) : InTurn strategy ask [] start [] [] where
  seen_length := rfl
  outputs_length := rfl
  seen_merged := nofun
  answered := nofun

theorem cons {a : α} {as : List α} {start output next : Bundle} {seen outputs : List Bundle}
    (asked : ask a start = .ok output) (merged : Bundle.merge strategy start output = .ok next)
    (rest : InTurn strategy ask as next seen outputs) :
    InTurn strategy ask (a :: as) start (start :: seen) (output :: outputs) where
  seen_length := congrArg (· + 1) rest.seen_length
  outputs_length := congrArg (· + 1) rest.outputs_length
  seen_merged := by
    intro j b here
    cases j with
    | zero => exact congrArg Except.ok (Option.some.inj here)
    | succ j =>
        rw [List.take_succ_cons, List.foldlM_cons, merged]
        exact rest.seen_merged j b here
  answered := by
    intro j c b result hc hb hr
    cases j with
    | zero =>
        cases hc
        cases hb
        cases hr
        exact asked
    | succ j => exact rest.answered j c b result hc hb hr

theorem cons_inv {a : α} {as : List α} {start final : Bundle} {seen outputs : List Bundle}
    (turn : InTurn strategy ask (a :: as) start seen outputs)
    (merged : outputs.foldlM (Bundle.merge strategy) start = .ok final) :
    ∃ output next seen' outputs', seen = start :: seen' ∧ outputs = output :: outputs' ∧
      ask a start = .ok output ∧ Bundle.merge strategy start output = .ok next ∧
      InTurn strategy ask as next seen' outputs' ∧
      outputs'.foldlM (Bundle.merge strategy) next = .ok final := by
  obtain ⟨seenLength, outputsLength, seenMerged, answered⟩ := turn
  cases seen with
  | nil => cases seenLength
  | cons b seen =>
      cases outputs with
      | nil => cases outputsLength
      | cons output outputs =>
          have same : start = b := Except.ok.inj (seenMerged 0 b rfl)
          subst same
          obtain ⟨next, first, more⟩ := Bundle.foldlM_merge_cons_eq_ok_iff.1 merged
          refine ⟨output, next, seen, outputs, rfl, rfl, answered 0 a start output rfl rfl rfl,
            first, ⟨Nat.succ.inj seenLength, Nat.succ.inj outputsLength, ?_, ?_⟩, more⟩
          · intro j b here
            have shifted := seenMerged (j + 1) b here
            rw [List.take_succ_cons, List.foldlM_cons, first] at shifted
            exact shifted
          · intro j c b result hc hb hr
            exact answered (j + 1) c b result hc hb hr

/-- Plugins that do not look at what was merged return the same in whatever turn. -/
theorem exists_seen_iff {ask : α → Except PluginError Bundle} {as : List α}
    {start final : Bundle} {outputs : List Bundle}
    (merged : outputs.foldlM (Bundle.merge strategy) start = .ok final) :
    (∃ seen, InTurn strategy (fun a _ => ask a) as start seen outputs) ↔
      List.Forall₂ (fun a output => ask a = .ok output) as outputs := by
  induction as generalizing start outputs with
  | nil =>
      rw [List.forall₂_nil_left_iff]
      constructor
      · rintro ⟨seen, turn⟩
        exact List.eq_nil_of_length_eq_zero turn.outputs_length
      · rintro rfl
        exact ⟨[], .nil start⟩
  | cons a as ih =>
      rw [List.forall₂_cons_left_iff]
      constructor
      · rintro ⟨seen, turn⟩
        obtain ⟨output, next, seen, outputs, rfl, rfl, asked, -, rest, more⟩ :=
          turn.cons_inv merged
        exact ⟨output, outputs, asked, (ih more).1 ⟨seen, rest⟩, rfl⟩
      · rintro ⟨output, outputs, asked, all, rfl⟩
        obtain ⟨next, first, more⟩ := Bundle.foldlM_merge_cons_eq_ok_iff.1 merged
        obtain ⟨seen, rest⟩ := (ih more).2 all
        exact ⟨start :: seen, .cons asked first rest⟩

end InTurn

namespace Lineup

variable (l : Lineup) (schema : Schema) (options : GenerationOptions)

section Row

variable {mk : α → Step} {ask : α → Bundle → Except PluginError Bundle}
  (answers : ∀ a b, (mk a).answer ⟨schema, options, b⟩ = some <$> ask a b)
  (additive : ∀ a b, (mk a).base b = b)

include answers additive

theorem advance_row_iff {a : α} {start next : Bundle} :
    (mk a).advance l.strategy ⟨schema, options, start⟩ = .ok next ↔
      ∃ output, ask a start = .ok output ∧ Bundle.merge l.strategy start output = .ok next := by
  rw [Step.advance_eq_ok_iff_of_answer (answers a start), additive]

/-- A row of plugins runs to its end exactly if each of them returns a bundle in its turn and all of
these merge. -/
theorem result_perform_map {as : List α} {start final : Bundle} :
    (l.perform schema options (as.map mk) start).result = .ok final ↔
      ∃ seen outputs, InTurn l.strategy ask as start seen outputs ∧
        outputs.foldlM (Bundle.merge l.strategy) start = .ok final := by
  induction as generalizing start with
  | nil =>
      constructor
      · intro ended
        cases ended
        exact ⟨[], [], .nil _, rfl⟩
      · rintro ⟨seen, outputs, turn, merged⟩
        have none : outputs = [] := List.eq_nil_of_length_eq_zero turn.outputs_length
        subst none
        cases merged
        rfl
  | cons a as ih =>
      rw [List.map_cons, result_perform_cons]
      constructor
      · rintro ⟨next, advanced, rest⟩
        obtain ⟨output, asked, merged⟩ :=
          (l.advance_row_iff schema options answers additive).1 advanced
        obtain ⟨seen, outputs, turn, more⟩ := ih.1 rest
        exact ⟨start :: seen, output :: outputs, .cons asked merged turn,
          Bundle.foldlM_merge_cons_eq_ok_iff.2 ⟨next, merged, more⟩⟩
      · rintro ⟨seen, outputs, turn, merged⟩
        obtain ⟨output, next, seen, outputs, rfl, rfl, asked, first, rest, more⟩ :=
          turn.cons_inv merged
        have advanced := (l.advance_row_iff schema options answers additive).2
          ⟨output, asked, first⟩
        exact ⟨next, advanced, ih.2 ⟨seen, outputs, rest, more⟩⟩

theorem handed_perform_map {plugin : α → Plugin} (reads : ∀ a, (mk a).reader? = some (plugin a))
    {as : List α} {start final : Bundle} {seen outputs : List Bundle}
    (turn : InTurn l.strategy ask as start seen outputs)
    (merged : outputs.foldlM (Bundle.merge l.strategy) start = .ok final) :
    (l.perform schema options (as.map mk) start).handed = (as.map plugin).zip seen := by
  induction as generalizing start seen outputs with
  | nil => rfl
  | cons a as ih =>
      obtain ⟨output, next, seen, outputs, rfl, rfl, asked, first, rest, more⟩ :=
        turn.cons_inv merged
      have advanced := (l.advance_row_iff schema options answers additive).2
        ⟨output, asked, first⟩
      have handed : Call.handed? (.perform (mk a) ⟨schema, options, start⟩) =
          some (plugin a, start) := congrArg (Option.map (·, start)) (reads a)
      unfold Run.handed at ih ⊢
      rw [List.map_cons, calls_perform_cons l schema options advanced,
        List.filterMap_cons_some handed, ih rest more]
      rfl

end Row

theorem result_perform_map_of_const {mk : α → Step} {ask : α → Except PluginError Bundle}
    (answers : ∀ a b, (mk a).answer ⟨schema, options, b⟩ = some <$> ask a)
    (additive : ∀ a b, (mk a).base b = b) {as : List α} {start final : Bundle} :
    (l.perform schema options (as.map mk) start).result = .ok final ↔
      ∃ outputs, List.Forall₂ (fun a output => ask a = .ok output) as outputs ∧
        outputs.foldlM (Bundle.merge l.strategy) start = .ok final := by
  rw [result_perform_map l schema options answers additive, exists_comm]
  refine exists_congr fun outputs => ?_
  constructor
  · rintro ⟨seen, turn, merged⟩
    exact ⟨(InTurn.exists_seen_iff merged).1 ⟨seen, turn⟩, merged⟩
  · rintro ⟨all, merged⟩
    obtain ⟨seen, turn⟩ := (InTurn.exists_seen_iff merged).2 all
    exact ⟨seen, turn, merged⟩

end Lineup

end Scaffold
