import Scaffold.Lineup.Resolve
import Scaffold.Proofs.Config.Problems
import Scaffold.Proofs.Lineup.FailStop
import Scaffold.Proofs.Plugin.Registrations

/-!
How often a configuration chooses a plugin. An entry leads to the first plugin that has it for a tag
or for a name, so an accepted configuration, which has no entry twice, chooses a plugin once; twice it
can only do so where it lists both the tag and another name of the plugin.
-/

namespace Scaffold

/-! Look-ups in a registry. -/

namespace Registry

variable {r : Registry} {kind : PluginKind} {a : kind.Item}

theorem mem_of_tagged? {entry : String} (found : r.tagged? kind entry = some a) :
    .of kind a ∈ r.plugins ∧
      ((Plugin.of kind a).capability = entry ∨ (Plugin.of kind a).name = entry) := by
  obtain ⟨p, member, here⟩ := List.exists_of_findSome?_eq_some found
  obtain ⟨item, answers⟩ := Option.filter_eq_some_iff.1 here
  obtain rfl := Plugin.item?_eq_some_iff.1 item
  exact ⟨member, of_decide_eq_true answers⟩

theorem eq_of_name_eq {b : kind.Item} (distinct : (r.plugins.map key).Nodup)
    (left : .of kind a ∈ r.plugins) (right : .of kind b ∈ r.plugins)
    (same : (Plugin.of kind a).name = (Plugin.of kind b).name) : a = b := by
  apply Plugin.of_injective
  apply eq_of_key_eq distinct left right
  rw [key, key, Plugin.kind_of, Plugin.kind_of, same]

end Registry

/-! Choosing by entries. -/

section Choosing

variable {α : Type} {look : String → Option α} {tag name : α → String} {entries : List String}

/-- Two entries stand for one plugin: its tag, and a name that differs from it. -/
structure Doubled (look : String → Option α) (tag name : α → String) (entries : List String)
    (p : α) : Prop where
  differ : tag p ≠ name p
  tag_mem : tag p ∈ entries
  name_mem : name p ∈ entries
  tag_leads : look (tag p) = some p
  name_leads : look (name p) = some p

/-- A plugin is in a row of chosen ones once at most, or else twice and listed twice over. -/
structure ChosenFor (look : String → Option α) (tag name : α → String) (entries : List String)
    (chosen : List α) (p : α) : Prop where
  only : ∀ q ∈ chosen, name q = name p → q = p
  most : (chosen.map name).count (name p) ≤ 2
  doubled : 1 < (chosen.map name).count (name p) → Doubled look tag name entries p

variable {p : α}

def leading (look : String → Option α) (name : α → String) (entries : List String) (p : α) :
    List String :=
  entries.filter fun e => ((look e).map fun q => name q == name p).getD false

theorem count_chosen :
    ((entries.filterMap look).map name).count (name p) = (leading look name entries p).length := by
  rw [List.count_eq_countP, List.countP_map, List.countP_filterMap, List.countP_eq_length_filter]
  rfl

theorem pair_of_nodup {x y : β} {bs : List β} (nodup : bs.Nodup)
    (either : ∀ b ∈ bs, b = x ∨ b = y) :
    bs.length ≤ 2 ∧ (1 < bs.length → x ≠ y ∧ x ∈ bs ∧ y ∈ bs) := by
  have listed : bs ⊆ [x, y] := fun b member => by simpa using either b member
  refine ⟨(List.subperm_of_subset nodup listed).length_le, fun several => ?_⟩
  obtain ⟨b, c, rest, rfl⟩ : ∃ b c rest, bs = b :: c :: rest := by
    match bs, several with
    | b :: c :: rest, _ => exact ⟨b, c, rest, rfl⟩
  have differ : b ≠ c := fun same => (List.nodup_cons.1 nodup).1 (same ▸ List.mem_cons_self)
  rcases either b (by simp) with rfl | rfl <;> rcases either c (by simp) with rfl | rfl
  · exact absurd rfl differ
  · exact ⟨differ, by simp, by simp⟩
  · exact ⟨differ.symm, by simp, by simp⟩
  · exact absurd rfl differ

theorem chosenFor_filterMap (distinct : entries.Nodup)
    (leads : ∀ e q, look e = some q → name q = name p → q = p ∧ (tag p = e ∨ name p = e)) :
    ChosenFor look tag name entries (entries.filterMap look) p := by
  have own : ∀ e ∈ leading look name entries p,
      e ∈ entries ∧ look e = some p ∧ (tag p = e ∨ name p = e) := by
    intro e member
    obtain ⟨listed, here⟩ := List.mem_filter.1 member
    cases found : look e with
    | none => simp [found] at here
    | some q =>
        have same : name q = name p := by simpa [found] using here
        obtain ⟨rfl, answers⟩ := leads e q found same
        exact ⟨listed, rfl, answers⟩
  obtain ⟨most, both⟩ := pair_of_nodup (distinct.filter _)
    fun e member => (own e member).2.2.imp Eq.symm Eq.symm
  refine ⟨?_, count_chosen ▸ most, fun several => ?_⟩
  · intro q member same
    obtain ⟨e, -, found⟩ := List.mem_filterMap.1 member
    exact (leads e q found same).1
  · obtain ⟨differ, tagged, named⟩ := both (count_chosen ▸ several)
    exact ⟨differ, (own _ tagged).1, (own _ named).1, (own _ tagged).2.1, (own _ named).2.1⟩

/-- By capability and name, a registry chooses a plugin once, but for one that is listed by both. -/
theorem chosenFor_tagged? {r : Registry} (unique : (r.plugins.map Registry.key).Nodup)
    {kind : PluginKind} {a : kind.Item} (registered : .of kind a ∈ r.plugins)
    (distinct : entries.Nodup) :
    ChosenFor (r.tagged? kind) (fun b => (Plugin.of kind b).capability)
      (fun b => (Plugin.of kind b).name) entries (entries.filterMap (r.tagged? kind)) a := by
  refine chosenFor_filterMap distinct fun e b found same => ?_
  obtain ⟨member, answers⟩ := Registry.mem_of_tagged? found
  obtain rfl := Registry.eq_of_name_eq unique member registered same
  exact ⟨rfl, answers⟩

end Choosing

/-! Who is asked in a run, by kind and name. -/

namespace Asked

def isAuth (name : String) : Asked → Bool
  | .step (.auth a) => a.info.name == name
  | _ => false

def isDeploy (name : String) : Asked → Bool
  | .step (.deploy d) => d.info.name == name
  | _ => false

end Asked

namespace Lineup

section Runs

variable (l : Lineup) (name : String)

theorem countP_isAuth_entries :
    l.entries.countP (·.isAuth name) = (l.auth.map (·.info.name)).count name := by
  simp [entries, asking, List.countP_map, List.countP_flatMap, Function.comp_def, Asked.isAuth,
    List.count_eq_countP]

theorem countP_isDeploy_entries :
    l.entries.countP (·.isDeploy name) = (l.deploy.map (·.info.name)).count name := by
  simp [entries, asking, List.countP_map, List.countP_flatMap, Function.comp_def, Asked.isDeploy,
    List.count_eq_countP]

/-- No plugin is asked more often in a run than it was registered. -/
theorem countP_calls_le (p : Asked → Bool) (now : Instant) (source : Source)
    (path : Option String) (options : GenerationOptions) :
    (l.generate now source path options).calls.countP (fun c => p c.asked) ≤ l.entries.countP p := by
  cases present : l.parser with
  | none =>
      rw [l.generate_of_parser_eq_none present]
      exact Nat.zero_le _
  | some parser =>
      have trace := (l.failStop_generate present now source path options).trace
      calc (l.generate now source path options).calls.countP (fun c => p c.asked)
          = ((l.generate now source path options).calls.map Call.asked).countP p := by
            rw [List.countP_map]
            rfl
        _ ≤ l.order.countP p := trace.sublist.countP_le
        _ = l.entries.countP p := l.order_perm_entries.countP_eq p

end Runs

section Resolving

variable (c : Config) (r : Registry)

theorem fst_gather_found (warning : String → String) (look : String → Option α)
    (entries : List String) :
    (gather (entries.map fun e => found (warning e) (look e))).1 = entries.filterMap look := by
  rw [gather, List.flatMap_map, List.filterMap_eq_flatMap_toList]
  refine List.flatMap_congr fun e _ => ?_
  cases look e <;> rfl

theorem auth_resolve : (resolve c r).lineup.auth = c.auth.filterMap r.auth? :=
  fst_gather_found _ _ _

theorem deploy_resolve : (resolve c r).lineup.deploy = c.deploy.filterMap r.deploy? :=
  fst_gather_found _ _ _

end Resolving

/-- An accepted configuration chooses an auth or a deploy plugin of a registry once at most, but for
one that it lists both by its tag and by another name; and no plugin is asked more often in a run
than it was chosen. -/
theorem resolve_chooses {c : Config} (valid : c.validate = .ok c) (history : List Plugin) :
    let r := Registry.ofList history
    let l := (resolve c r).lineup
    (∀ a, .auth a ∈ r.plugins →
      ChosenFor r.auth? (·.strategy) (·.info.name) c.auth l.auth a ∧
      ∀ now source path options,
        (l.generate now source path options).calls.countP (·.asked.isAuth a.info.name) ≤
          (l.auth.map (·.info.name)).count a.info.name) ∧
    ∀ d, .deploy d ∈ r.plugins →
      ChosenFor r.deploy? (·.target) (·.info.name) c.deploy l.deploy d ∧
      ∀ now source path options,
        (l.generate now source path options).calls.countP (·.asked.isDeploy d.info.name) ≤
          (l.deploy.map (·.info.name)).count d.info.name := by
  intro r l
  have unique := Registry.nodup_keys_ofList history
  have usable := Config.usable_of_validate valid
  constructor
  · intro a registered
    constructor
    · rw [show l.auth = _ from auth_resolve c r]
      exact chosenFor_tagged? unique registered (usable.distinct .auth)
    · intro now source path options
      rw [← countP_isAuth_entries]
      exact l.countP_calls_le _ now source path options
  · intro d registered
    constructor
    · rw [show l.deploy = _ from deploy_resolve c r]
      exact chosenFor_tagged? unique registered (usable.distinct .deploy)
    · intro now source path options
      rw [← countP_isDeploy_entries]
      exact l.countP_calls_le _ now source path options

/-- Two auth plugins of one strategy, of which the first is also listed by its name. -/
def aliased : List Plugin :=
  [(Stub.new "schema").plugin .parser, { Stub.new "tokens" with tag := "jwt" }.plugin .auth,
    { Stub.new "sessions" with tag := "jwt" }.plugin .auth, (Stub.new "image").plugin .deploy]

theorem resolve_chooses_aliased :
    let c : Config := {
      schema := "schema.json", auth := ["jwt", "sessions", "tokens"], deploy := ["image"] }
    let r := Registry.ofList aliased
    let l := (resolve c r).lineup
    c.validate = .ok c ∧
      l.auth.map (·.info.name) = ["tokens", "sessions", "tokens"] ∧
      l.deploy.map (·.info.name) = ["image"] ∧
      ∀ a, .auth a ∈ r.plugins →
        ChosenFor r.auth? (·.strategy) (·.info.name) c.auth l.auth a := by
  intro c r l
  have valid : c.validate = .ok c := rfl
  exact ⟨valid, rfl, rfl, fun a registered => ((resolve_chooses valid aliased).1 a registered).1⟩

/-- A plugin that is listed by its strategy and by its name is chosen twice, and asked twice in a
run. -/
theorem resolve_chooses_twice :
    let c : Config := { schema := "schema.json", auth := ["jwt", "tokens"] }
    let r := Registry.ofList [(Stub.new "schema").plugin .parser,
      { Stub.new "tokens" with tag := "jwt" }.plugin .auth]
    let l := (resolve c r).lineup
    c.validate = .ok c ∧
      (¬∀ a, .auth a ∈ r.plugins → (l.auth.map (·.info.name)).count a.info.name ≤ 1) ∧
      (l.generate ⟨0, 0⟩ (.text "") none {}).calls.countP (·.asked.isAuth "tokens") = 2 := by
  intro c r l
  refine ⟨rfl, fun once => ?_, by decide +kernel⟩
  have both : (l.auth.map (·.info.name)).count "tokens" = 2 := by decide
  have registered : .auth { Stub.new "tokens" with tag := "jwt" }.auth ∈ r.plugins := .tail _ (.head _)
  have one := once _ registered
  exact absurd (both ▸ one) (by decide)

end Lineup

end Scaffold
