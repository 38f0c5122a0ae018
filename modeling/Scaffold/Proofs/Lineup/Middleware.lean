import Scaffold.Plugin.Stub
import Scaffold.Proofs.Json.Records
import Scaffold.Proofs.Lineup.Distinct
import Scaffold.Proofs.Lineup.WholeRun

/-!
The middleware of a lineup: each name once, in the order in which the names first come up as the auth
plugins run, and as it was defined there. A run that ends well keeps the list under a key of its own
among the extra entries.
-/

namespace Scaffold

open Json (Slots present exists_record?_canonical)
open Scaffold.Bundle (mergeAll)

namespace Middleware

def slots (m : Middleware) : Slots :=
  [("name", some (.string m.name)), ("importPath", some (.string m.importPath)),
    ("global", some (.bool m.everywhere)), ("description", m.description.map .string)]

theorem toJson_eq (m : Middleware) : m.toJson = .object (present m.slots) := by
  simp [toJson, slots]

theorem ofJson?_canonical (m : Middleware) : ofJson? m.toJson.canonical = some m := by
  have distinct : (m.slots.map (·.1)).Nodup := by simp [slots]
  have text : m.description.map (Json.canonical ∘ .string) = m.description.map .string := rfl
  obtain ⟨ms, record, look⟩ := exists_record?_canonical distinct _
  rw [toJson_eq, ofJson?, record]
  dsimp only [Option.bind_eq_bind, Option.bind_some]
  simp [look, slots, lookup_cons_eq, Json.canonical, text]

theorem list?_listValue (ms : List Middleware) :
    Json.list? ofJson? (listValue ms).tree = some ms := by
  have row : (listValue ms).tree = .ofList (fun m => m.toJson.canonical) ms := by
    change Json.array (Json.canonicalItems (ms.map toJson)) = _
    rw [Json.canonicalItems_eq_map, List.map_map]
    rfl
  rw [row]
  exact Json.list?_ofList fun m _ => m.ofJson?_canonical

end Middleware

namespace Lineup

variable (l : Lineup)

/-- All that auth plugins define, in the order in which they run. -/
def definitions : List Middleware :=
  l.orderedAuth.flatMap (·.middleware)

theorem mem_definitions {m : Middleware} :
    m ∈ l.definitions ↔ ∃ a ∈ l.auth, m ∈ a.middleware := by
  unfold definitions
  simp only [List.mem_flatMap, l.stablySorted_orderedAuth.perm.mem_iff]

theorem addMiddleware_eq_settleInto (known : List Middleware) (m : Middleware) :
    addMiddleware known m = settleInto (·.name) (fun first _ => first) m known := by
  unfold addMiddleware
  by_cases present : m.name ∈ known.map (·.name)
  · rw [settleInto_of_absorbed (fun _ => rfl) present]
    exact if_pos (by simpa using present)
  · rw [settleInto_of_not_mem present]
    exact if_neg (by simpa using present)

theorem middleware_eq_settleAll :
    l.middleware = settleAll (·.name) (fun first _ => first) [] l.definitions := by
  have step : addMiddleware = fun known m => settleInto (·.name) (fun first _ => first) m known :=
    funext fun known => funext (addMiddleware_eq_settleInto known)
  rw [middleware, step]
  rfl

theorem keepsName : KeepsKey Middleware.name fun first _ => first :=
  fun _ _ _ => rfl

theorem names_middleware :
    l.middleware.map (·.name) = (l.definitions.map (·.name)).eraseDups := by
  rw [middleware_eq_settleAll, map_settleAll_nil keepsName]

theorem find?_middleware (name : String) :
    l.middleware.find? (·.name = name) = l.definitions.find? (·.name = name) := by
  rw [middleware_eq_settleAll, find?_settleAll_nil keepsName, settled_of_absorbed fun _ _ => rfl,
    List.head?_filter]

/-! What a run does with it. -/

/-- Extra entries that hold the list of middleware in addition to those merged from outputs, and over
what outputs had in its place. Nothing is added where there is no middleware. -/
structure Registers (merged extra : Dict Json.Value) : Prop where
  unchanged : l.middleware = [] → extra = merged
  listed : l.middleware ≠ [] →
    ∃ value, extra.get? "middleware" = some value ∧
      Json.list? Middleware.ofJson? value.tree = some l.middleware
  others : ∀ key, key ≠ "middleware" → extra.get? key = merged.get? key

theorem registers_finishExtra (merged : Dict Json.Value) :
    l.Registers merged (l.finishExtra merged) := by
  unfold finishExtra
  by_cases none : l.middleware = []
  · rw [if_pos (List.isEmpty_iff.2 none)]
    exact ⟨fun _ => rfl, fun some => absurd none some, fun _ _ => rfl⟩
  · rw [if_neg (List.isEmpty_iff.not.2 none)]
    refine ⟨fun empty => absurd empty none, fun _ => ⟨_, ?_, Middleware.list?_listValue _⟩, ?_⟩
    · rw [Dict.get?_insert, if_pos rfl]
    · intro key other
      rw [Dict.get?_insert, if_neg other]

/-- What a run has returned: a merge of outputs, with the middleware among its extra entries. -/
def Returns (schema : Schema) (options : GenerationOptions) (bundle : Bundle) : Prop :=
  ∃ o full metadata, l.Yields schema options o ∧ mergeAll l.strategy o.all = .ok full ∧
    bundle.metadata = some metadata ∧
    l.Registers (full.metadata.getD {}).extra metadata.extra

variable {l}

theorem returns_generateFrom {now : Instant} {schema : Schema} {options : GenerationOptions}
    {bundle : Bundle} (ended : (l.generateFrom now schema options).result = .ok bundle) :
    l.Returns schema options bundle := by
  obtain ⟨o, full, yields, merged, rfl⟩ := result_generateFrom.1 ended
  exact ⟨o, full, _, yields, merged, rfl, l.registers_finishExtra _⟩

variable (l)

/-- The names in the list of middleware are those that some auth plugin defines, each once, in the
order in which they first come up as the plugins run, and each as it was defined there. What a run
returns that ends well holds just this list, whatever outputs have in its place, or the extra entries
of the merged outputs where the list is empty. -/
theorem middleware_registered :
    (l.middleware.map (·.name)).Nodup ∧
    l.middleware.map (·.name) = (l.definitions.map (·.name)).eraseDups ∧
    (∀ name, name ∈ l.middleware.map (·.name) ↔
      ∃ a ∈ l.auth, ∃ m ∈ a.middleware, m.name = name) ∧
    (∀ m ∈ l.middleware, l.definitions.find? (·.name = m.name) = some m) ∧
    StablySorted (·.info.priority) l.auth l.orderedAuth ∧
    (∀ now schema options bundle, (l.generateFrom now schema options).result = .ok bundle →
      l.Returns schema options bundle) ∧
    ∀ now source path options bundle, (l.generate now source path options).result = .ok bundle →
      ∃ schema, (l.parse source path).result = .ok schema ∧ l.Returns schema options bundle := by
  have names := l.names_middleware
  have nodup : (l.middleware.map (·.name)).Nodup := names ▸ nodup_eraseDups _
  refine ⟨nodup, names, fun name => ?_, fun m member => ?_, l.stablySorted_orderedAuth,
    fun _ _ _ _ => returns_generateFrom, fun now source path options bundle ended => ?_⟩
  · rw [names, List.mem_eraseDups, List.mem_map]
    simp only [mem_definitions]
    constructor
    · rintro ⟨m, ⟨a, active, defines⟩, named⟩
      exact ⟨a, active, m, defines, named⟩
    · rintro ⟨a, active, m, defines, named⟩
      exact ⟨m, ⟨a, active, defines⟩, named⟩
  · rw [← find?_middleware]
    exact find?_eq_some_of_mem nodup member
  · rw [generate_eq_andThen] at ended
    obtain ⟨schema, parsed, finished⟩ := Run.result_andThen_eq_ok_iff.1 ended
    exact ⟨schema, parsed, returns_generateFrom finished⟩

/-- A lineup with a name that one auth plugin defines twice and one that two of them define. Its
generator has an entry of its own where the middleware goes. -/
def guarded : Lineup where
  parser := some (Stub.new "json").parser
  generators := [{
    info := { name := "rest", version := "1" }
    style := .rest
    generate _ _ := .ok { metadata := some { extra := .ofList [
      ("note", ⟨.string "kept", trivial⟩), ("middleware", ⟨.string "none", trivial⟩)] } } }]
  auth := [
    { Stub.new "tokens" with
      priority := 1
      middleware := [⟨"session", "./tokens", true, none⟩, ⟨"session", "./other", false, none⟩,
        ⟨"csrf", "./tokens", false, none⟩] }.auth,
    { Stub.new "cookies" with middleware := [⟨"csrf", "./cookies", false, some "first"⟩] }.auth]

theorem guarded_ends :
    ∃ bundle : Bundle, (guarded.generate ⟨0, 0⟩ (.text "") none {}).result = .ok bundle ∧
      bundle.metadata.map (·.extra.keys) = some ["middleware", "note"] :=
  ⟨_, rfl, by decide⟩

theorem middleware_registered_guarded :
    ∃ bundle, (guarded.generate ⟨0, 0⟩ (.text "") none {}).result = .ok bundle ∧
      bundle.metadata.map (·.extra.keys) = some ["middleware", "note"] ∧
      guarded.middleware =
        [⟨"csrf", "./cookies", false, some "first"⟩, ⟨"session", "./tokens", true, none⟩] ∧
      ∃ schema, (guarded.parse (.text "") none).result = .ok schema ∧
        guarded.Returns schema {} bundle := by
  obtain ⟨bundle, ended, keys⟩ := guarded_ends
  obtain ⟨-, -, -, -, -, -, registered⟩ := guarded.middleware_registered
  exact ⟨bundle, ended, keys, by decide, registered _ _ _ _ _ ended⟩

end Lineup

end Scaffold
