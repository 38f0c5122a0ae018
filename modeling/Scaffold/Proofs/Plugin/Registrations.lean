import Scaffold.Plugin.Registry
import Scaffold.Plugin.Stub
import Scaffold.Proofs.Keyed

/-!
Registries after any history of registrations. A registry holds one plugin for each key: where the
key was first registered, and as it was registered last.
-/

namespace Scaffold

/-- The style of a generator; other plugins have none. -/
def Plugin.style? : Plugin → Option ApiStyle
  | .generator g => some g.style
  | _ => none

namespace Registry

/-! Registrations settle by key, and the later plugin stays. -/

def latest (_ p : Plugin) : Plugin := p

theorem keepsKey_latest : KeepsKey key latest :=
  fun _ _ same => same.symm

theorem insertPlugin_eq_settleInto (p : Plugin) (ps : List Plugin) :
    insertPlugin p ps = settleInto key latest p ps := by
  induction ps with
  | nil => rfl
  | cons q qs ih => rw [insertPlugin, settleInto, ih, latest]

theorem plugins_foldl_register (r : Registry) (history : List Plugin) :
    (history.foldl register r).plugins = settleAll key latest r.plugins history := by
  induction history generalizing r with
  | nil => rfl
  | cons p history ih =>
      rw [List.foldl_cons, ih, register, insertPlugin_eq_settleInto, settleAll_cons]

theorem plugins_ofList (history : List Plugin) :
    (ofList history).plugins = settleAll key latest [] history :=
  plugins_foldl_register empty history

theorem settled_latest (ps : List Plugin) : settled latest ps = ps.getLast? := by
  induction ps using List.reverseRecOn with
  | nil => rfl
  | append_singleton ps p _ =>
      rw [settled, List.foldl_append, List.getLast?_concat]
      cases ps.foldl (fun found a => some (settleOnto latest found a)) none <;> rfl

/-! What a history leaves. -/

/-- The plugin that was registered last under a key. -/
def lastUnder (history : List Plugin) (k : PluginKind × String) : Option Plugin :=
  (history.filter (key · = k)).getLast?

theorem lastUnder_eq_some_iff {history : List Plugin} {k : PluginKind × String} {p : Plugin} :
    lastUnder history k = some p ↔
      ∃ before after, history = before ++ p :: after ∧ key p = k ∧ ∀ q ∈ after, key q ≠ k := by
  rw [lastUnder, List.getLast?_eq_some_iff]
  constructor
  · rintro ⟨others, kept⟩
    obtain ⟨before, rest, rfl, -, last⟩ := List.filter_eq_append_iff.1 kept
    obtain ⟨between, after, rfl, -, here, none⟩ := List.filter_eq_cons_iff.1 last
    refine ⟨before ++ between, after, by rw [List.append_assoc], of_decide_eq_true here, ?_⟩
    simpa using none
  · rintro ⟨before, after, rfl, here, none⟩
    refine ⟨before.filter (key · = k), ?_⟩
    have quiet : after.filter (key · = k) = [] := by simpa using none
    rw [List.filter_append, List.filter_cons_of_pos (by simpa using here), quiet]

theorem lastUnder_eq_none_iff {history : List Plugin} {k : PluginKind × String} :
    lastUnder history k = none ↔ ∀ p ∈ history, key p ≠ k := by
  simp [lastUnder]

/-- What a history of registrations leaves: the keys in the order in which they first occur, and
under each the plugin that was registered last. -/
def survivors (history : List Plugin) : List Plugin :=
  (history.map key).eraseDups.filterMap (lastUnder history)

section Histories

variable (history : List Plugin)

theorem map_key_ofList : (ofList history).plugins.map key = (history.map key).eraseDups := by
  rw [plugins_ofList, map_settleAll_nil keepsKey_latest]
  -- pairs are compared member by member here, and by their decidable equality there
  congr 1
  exact lawful_beq_subsingleton _ _

theorem nodup_keys_ofList : ((ofList history).plugins.map key).Nodup := by
  rw [plugins_ofList]
  exact nodup_settleAll_nil keepsKey_latest history

theorem find?_ofList (k : PluginKind × String) :
    (ofList history).plugins.find? (key · = k) = lastUnder history k := by
  rw [plugins_ofList, find?_settleAll_nil keepsKey_latest, settled_latest, lastUnder]

theorem plugins_ofList_eq_survivors : (ofList history).plugins = survivors history := by
  have kept := filterMap_find?_keys (nodup_keys_ofList history)
  simp only [find?_ofList, map_key_ofList] at kept
  exact kept.symm

theorem get?_eq_find? (r : Registry) (kind : PluginKind) (name : String) :
    r.get? kind name = r.plugins.find? (key · = (kind, name)) := by
  have same : (fun p : Plugin => p.kind == kind && p.name == name) =
      fun p => decide (key p = (kind, name)) := by
    funext p
    simp [key, beq_eq_decide]
  rw [get?, same]

theorem get?_ofList (kind : PluginKind) (name : String) :
    (ofList history).get? kind name = lastUnder history (kind, name) := by
  rw [get?_eq_find?, find?_ofList]

end Histories

/-! One more registration. -/

section Distinct

variable {r : Registry} (distinct : (r.plugins.map key).Nodup)

include distinct

theorem plugins_register (p : Plugin) :
    (r.register p).plugins =
      if key p ∈ r.plugins.map key then r.plugins.map fun q => if key q = key p then p else q
      else r.plugins ++ [p] := by
  rw [register, insertPlugin_eq_settleInto]
  split
  · next known => exact settleInto_of_mem distinct known
  · next absent => exact settleInto_of_not_mem absent

theorem nodup_names (kind : PluginKind) : (r.names kind).Nodup := by
  have keys : (r.names kind).map (kind, ·) = (r.ofKind kind).map key := by
    rw [names, List.map_map]
    refine List.map_congr_left fun p member => ?_
    have same : p.kind = kind := by simpa [ofKind] using (List.mem_filter.1 member).2
    rw [Function.comp, key, same]
  refine List.Nodup.of_map (kind, ·) ?_
  rw [keys]
  exact distinct.sublist (List.filter_sublist.map key)

theorem eq_of_key_eq {p q : Plugin} (left : p ∈ r.plugins) (right : q ∈ r.plugins)
    (same : key p = key q) : p = q :=
  List.inj_on_of_nodup_map distinct left right same

end Distinct

/-! The plugins of a kind, and of a style. -/

section Kinds

variable (r : Registry)

theorem ofKind_eq (kind : PluginKind) : r.ofKind kind = r.plugins.filter (·.kind = kind) := by
  simp only [ofKind, beq_eq_decide]

theorem map_parser_parsers : r.parsers.map .parser = r.plugins.filter (·.kind = .parser) := by
  unfold parsers
  induction r.plugins with
  | nil => rfl
  | cons p ps ih => cases p <;> simpa [Plugin.kind] using ih

theorem map_generator_generatorsFor (style : ApiStyle) :
    (r.generatorsFor style).map .generator = r.plugins.filter (·.style? = some style) := by
  unfold generatorsFor
  induction r.plugins with
  | nil => rfl
  | cons p ps ih =>
      cases p with
      | generator g => by_cases same : g.style = style <;> simpa [Plugin.style?, same] using ih
      | _ => simpa [Plugin.style?] using ih

theorem map_name_parsers : r.parsers.map (·.info.name) = r.names .parser := by
  rw [names, ofKind_eq, ← map_parser_parsers, List.map_map]
  rfl

theorem map_name_generatorsFor_sublist (style : ApiStyle) :
    ((r.generatorsFor style).map (·.info.name)).Sublist (r.names .generator) := by
  have names : (r.generatorsFor style).map (·.info.name) =
      (r.plugins.filter (·.style? = some style)).map (·.name) := by
    rw [← map_generator_generatorsFor, List.map_map]
    rfl
  rw [names, Registry.names, ofKind_eq]
  refine List.Sublist.map _ (List.monotone_filter_right _ fun p styled => ?_)
  cases p with
  | generator g => rfl
  | _ => simp [Plugin.style?] at styled

end Kinds

/-- After any history a registry holds what the history leaves. A look-up finds the last plugin that
was registered under its key; one more registration changes the plugin under its own key, in its
place, or adds one at the end; and what a kind or a style has is asked for in this order. -/
theorem ofList_holds (history : List Plugin) :
    let r := ofList history
    (r.plugins.map key).Nodup ∧
    r.plugins.map key = (history.map key).eraseDups ∧
    r.plugins = survivors history ∧
    (∀ kind name p, r.get? kind name = some p ↔
      ∃ before after, history = before ++ p :: after ∧ key p = (kind, name) ∧
        ∀ q ∈ after, key q ≠ (kind, name)) ∧
    (∀ kind name, r.get? kind name = none ↔ ∀ p ∈ history, key p ≠ (kind, name)) ∧
    (∀ p, (r.register p).plugins =
      if key p ∈ r.plugins.map key then r.plugins.map fun q => if key q = key p then p else q
      else r.plugins ++ [p]) ∧
    (∀ kind, r.ofKind kind = (survivors history).filter (·.kind = kind) ∧
      r.names kind = ((survivors history).filter (·.kind = kind)).map (·.name) ∧
      (r.names kind).Nodup) ∧
    (r.parsers.map .parser = (survivors history).filter (·.kind = .parser) ∧
      (r.parsers.map (·.info.name)).Nodup) ∧
    ∀ style, (r.generatorsFor style).map .generator =
        (survivors history).filter (·.style? = some style) ∧
      ((r.generatorsFor style).map (·.info.name)).Nodup := by
  intro r
  have distinct := nodup_keys_ofList history
  have holds : r.plugins = survivors history := plugins_ofList_eq_survivors history
  refine ⟨distinct, map_key_ofList history, holds, ?_, ?_, plugins_register distinct, ?_, ?_, ?_⟩
  · intro kind name p
    rw [get?_ofList, lastUnder_eq_some_iff]
  · intro kind name
    rw [get?_ofList, lastUnder_eq_none_iff]
  · intro kind
    have named : r.names kind = ((survivors history).filter (·.kind = kind)).map (·.name) := by
      rw [names, ofKind_eq, holds]
    exact ⟨holds ▸ r.ofKind_eq kind, named, nodup_names distinct kind⟩
  · rw [map_parser_parsers, holds, map_name_parsers]
    exact ⟨rfl, nodup_names distinct .parser⟩
  · intro style
    rw [map_generator_generatorsFor, holds]
    exact ⟨rfl, (nodup_names distinct .generator).sublist (r.map_name_generatorsFor_sublist style)⟩

/-- A generator that comes again with another style keeps its place and is found under that style
only; a deploy plugin of its name is another plugin. -/
example :
    let r := ofList [(Stub.new "api").plugin .generator, (Stub.new "docs").plugin .generator,
      (Stub.new "api").plugin .deploy,
      { Stub.new "api" with style := .graphql }.plugin .generator]
    (r.names .generator, (r.generatorsFor .rest).map (·.info.name),
      (r.generatorsFor .graphql).map (·.info.name), r.names .deploy) =
      (["api", "docs"], ["docs"], ["api"], ["api"]) := by
  decide

end Registry

end Scaffold
