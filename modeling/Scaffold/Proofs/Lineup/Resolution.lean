import Scaffold.Proofs.Lineup.Selection
import Scaffold.Proofs.Schema.Hints

/-!
What a configuration leads to. Each of its words leads to the first plugin of the word's kind that
answers to it, each enabled style to all generators of it, and there is one warning for each word
that no plugin answers to.
-/

namespace Scaffold

open Schema (opensWith opensWith_iff opensWith_append opensWith_append_of)

/-- Whether a plugin answers to a word: a parser to a path that it can parse, a generator to its
style, and any other to its tag and to its name. -/
def Plugin.answers (word : String) : Plugin → Bool
  | .parser p => p.canParse (.text "") (some word)
  | .generator g => g.style.name == word
  | .adapter a => a.framework == word || a.info.name == word
  | .auth a => a.strategy == word || a.info.name == word
  | .database d => d.library == word || d.info.name == word
  | .deploy d => d.target == word || d.info.name == word

/-- The kinds of which a plugin is looked up by its tag or name. -/
def PluginKind.tagged : PluginKind → Bool
  | .parser | .generator => false
  | .adapter | .auth | .database | .deploy => true

theorem Plugin.answers_iff {p : Plugin} {word : String} (tagged : p.kind.tagged) :
    p.answers word ↔ p.capability = word ∨ p.name = word := by
  cases p with
  | parser | generator => cases tagged
  | adapter | auth | database | deploy => simp [answers, capability, name, info]

namespace Registry

def Knows (r : Registry) (kind : PluginKind) (word : String) : Prop :=
  ∃ p ∈ r.plugins, p.kind = kind ∧ p.answers word

/-- The plugin is the first of its kind to answer to the word. -/
def Leads (r : Registry) (kind : PluginKind) (word : String) (p : Plugin) : Prop :=
  ∃ before after, r.plugins = before ++ p :: after ∧ p.kind = kind ∧ p.answers word ∧
    ∀ q ∈ before, q.kind = kind → ¬q.answers word

instance (r : Registry) (kind : PluginKind) : DecidablePred (r.Knows kind) :=
  fun word => inferInstanceAs (Decidable (∃ p ∈ r.plugins, p.kind = kind ∧ p.answers word))

/-- The plugins that words lead to, in the order of the words; a word that none answers to is passed
over. -/
def Selects (r : Registry) (kind : PluginKind) (words : List String) (chosen : List Plugin) : Prop :=
  List.Forall₂ (r.Leads kind) (words.filter (r.Knows kind ·)) chosen

def lead? (r : Registry) (kind : PluginKind) (word : String) : Option Plugin :=
  r.plugins.find? fun p => p.kind = kind ∧ p.answers word

section Leading

variable {r : Registry} {kind : PluginKind} {word : String}

theorem isSome_lead? : (r.lead? kind word).isSome ↔ r.Knows kind word := by
  simp [lead?, Knows]

theorem leads_of_lead? {p : Plugin} (found : r.lead? kind word = some p) : r.Leads kind word p := by
  obtain ⟨here, before, after, split, others⟩ := List.find?_eq_some_iff_append.1 found
  obtain ⟨same, answers⟩ := of_decide_eq_true here
  refine ⟨before, after, split, same, answers, ?_⟩
  intro q member kind answers
  simpa [kind, answers] using others q member

theorem selects_filterMap {look : String → Option α} {plugin : α → Plugin}
    (leads : ∀ word, (look word).map plugin = r.lead? kind word) (words : List String) :
    r.Selects kind words ((words.filterMap look).map plugin) := by
  rw [List.map_filterMap]
  apply forall₂_filterMap
  · intro word
    rw [leads, isSome_lead?, decide_eq_true_iff]
  · intro word p found
    rw [leads] at found
    exact leads_of_lead? found

end Leading

section Lookups

variable (r : Registry)

theorem map_parserFor (path : String) :
    (r.parserFor path).map .parser = r.lead? .parser path := by
  unfold parserFor parsers lead?
  induction r.plugins with
  | nil => rfl
  | cons p ps ih =>
      cases p with
      | parser p =>
          cases reads : p.canParse (.text "") (some path) with
          | true => simp [reads, Plugin.kind, Plugin.answers]
          | false => simpa [reads, Plugin.kind, Plugin.answers] using ih
      | _ => simpa [Plugin.kind] using ih

theorem map_tagged? (kind : PluginKind) (tagged : kind.tagged) (word : String) :
    (r.tagged? kind word).map (.of kind) = r.lead? kind word := by
  have sees (p : Plugin) :
      ((p.item? kind).filter fun _ => p.capability = word ∨ p.name = word).map (.of kind) =
        Option.guard (fun p => p.kind = kind ∧ p.answers word) p := by
    cases item : p.item? kind with
    | none =>
        have other : p.kind ≠ kind := Plugin.item?_eq_none_iff.1 item
        simp [Option.guard, other]
    | some a =>
        obtain rfl := Plugin.item?_eq_some_iff.1 item
        have answers : (Plugin.of kind a).answers word ↔ _ :=
          Plugin.answers_iff (Plugin.kind_of ▸ tagged)
        by_cases named : (Plugin.of kind a).capability = word ∨ (Plugin.of kind a).name = word <;>
          simp [Option.guard, Plugin.kind_of, answers, named]
  rw [tagged?, lead?, List.map_findSome?, ← List.findSome?_guard]
  exact congrArg (List.findSome? · r.plugins) (funext sees)

end Lookups

/-! Generators by style. -/

section Styles

variable {r : Registry}

theorem answers_name_iff {style : ApiStyle} {p : Plugin} :
    (p.kind = .generator ∧ p.answers style.name) ↔ p.style? = some style := by
  cases p with
  | generator g =>
      have named : g.style.name = style.name ↔ g.style = style := by
        cases g.style <;> cases style <;> decide
      simpa [Plugin.kind, Plugin.answers, Plugin.style?] using named
  | _ => simp [Plugin.kind, Plugin.style?]

theorem generatorsFor_eq_nil_iff {style : ApiStyle} :
    r.generatorsFor style = [] ↔ ¬r.Knows .generator style.name := by
  rw [← List.map_eq_nil_iff (f := Plugin.generator), map_generator_generatorsFor]
  simp [Knows, answers_name_iff]

theorem mem_generatorsFor {style : ApiStyle} {g : Generator} :
    g ∈ r.generatorsFor style ↔ .generator g ∈ r.plugins ∧ g.style = style := by
  have here : g ∈ r.generatorsFor style ↔
      .generator g ∈ (r.generatorsFor style).map Plugin.generator := by
    simp
  rw [here, map_generator_generatorsFor, List.mem_filter]
  simp [Plugin.style?]

theorem nodup_names_flatMap (distinct : (r.plugins.map key).Nodup) {styles : List ApiStyle}
    (apart : styles.Nodup) :
    ((styles.flatMap r.generatorsFor).map (·.info.name)).Nodup := by
  rw [List.map_flatMap, List.nodup_flatMap]
  constructor
  · intro style _
    exact (nodup_names distinct .generator).sublist (r.map_name_generatorsFor_sublist style)
  · apply apart.imp
    intro style other differ name left right
    obtain ⟨g, member, named⟩ := List.mem_map.1 left
    obtain ⟨h, member', named'⟩ := List.mem_map.1 right
    obtain ⟨registered, rfl⟩ := mem_generatorsFor.1 member
    obtain ⟨registered', rfl⟩ := mem_generatorsFor.1 member'
    have same : key (.generator g) = key (.generator h) :=
      congrArg (Prod.mk PluginKind.generator) (named.trans named'.symm)
    cases eq_of_key_eq distinct registered registered' same
    exact differ rfl

end Styles

end Registry

/-! What is said of words that nothing answers to. -/

namespace PluginKind

def opening : PluginKind → String
  | .parser => "no parser recognizes `"
  | .generator => "no generator registered for the `"
  | .adapter => "adapter `"
  | .auth => "auth strategy `"
  | .database => "database adapter `"
  | .deploy => "deploy target `"

def closing : PluginKind → String
  | .parser => "`"
  | .generator => "` API style"
  | .adapter | .auth | .database | .deploy => "` is not registered"

/-- The warning about a word that no plugin of the kind answers to. -/
def missing (kind : PluginKind) (word : String) : String :=
  kind.opening ++ word ++ kind.closing

theorem opensWith_missing (kind : PluginKind) (word : String) :
    opensWith kind.opening (kind.missing word) :=
  opensWith_append_of (opensWith_append _ word) _

theorem eq_of_opensWith {kind other : PluginKind} {text : String}
    (left : opensWith kind.opening text) (right : opensWith other.opening text) : kind = other := by
  have either := List.prefix_or_prefix_of_prefix (opensWith_iff.1 left) (opensWith_iff.1 right)
  revert either
  cases kind <;> cases other <;> decide

end PluginKind

namespace Registry

/-- The warnings about words of a kind, in the order of the words. -/
def unmet (r : Registry) (kind : PluginKind) (words : List String) : List String :=
  (words.filter fun word => ¬r.Knows kind word).map kind.missing

variable {r : Registry} {kind : PluginKind} {words : List String}

theorem filter_unmet (other : PluginKind) :
    (r.unmet kind words).filter (opensWith other.opening) =
      if kind = other then r.unmet kind words else [] := by
  split
  · next same =>
    subst same
    apply List.filter_eq_self.2
    intro text member
    obtain ⟨word, -, rfl⟩ := List.mem_map.1 member
    exact kind.opensWith_missing word
  · next apart =>
    apply List.filter_eq_nil_iff.2
    intro text member opens
    obtain ⟨word, -, rfl⟩ := List.mem_map.1 member
    exact apart (PluginKind.eq_of_opensWith (kind.opensWith_missing word) opens)

theorem Selects.length_add {chosen : List Plugin} (selects : r.Selects kind words chosen) :
    chosen.length + (r.unmet kind words).length = words.length := by
  rw [← selects.length_eq, unmet, List.length_map]
  simpa using (words.length_eq_length_filter_add fun word => decide (r.Knows kind word)).symm

end Registry

namespace Lineup

variable (c : Config) (r : Registry)

theorem snd_gather_found {kind : PluginKind} {look : String → Option α} {plugin : α → Plugin}
    (leads : ∀ word, (look word).map plugin = r.lead? kind word) (words : List String) :
    (gather (words.map fun word => found (kind.missing word) (look word))).2 =
      r.unmet kind words := by
  have known (word : String) : (look word).isSome ↔ r.Knows kind word := by
    rw [← Registry.isSome_lead?, ← leads, Option.isSome_map]
  induction words with
  | nil => rfl
  | cons word words ih =>
      simp only [gather, Registry.unmet, List.map_cons, List.flatMap_cons] at ih ⊢
      rw [ih]
      cases first : look word with
      | some a =>
          have knows : r.Knows kind word := (known word).1 (by simp [first])
          simp [found, knows]
      | none =>
          have unknown : ¬r.Knows kind word := by simp [← known, first]
          simp [found, unknown]

theorem generatorsOf_eq (style : ApiStyle) :
    generatorsOf r style = (r.generatorsFor style, r.unmet .generator [style.name]) := by
  unfold generatorsOf
  split
  · next none =>
    have unknown := Registry.generatorsFor_eq_nil_iff.1 none
    simp [Registry.unmet, unknown, none, PluginKind.missing, PluginKind.opening,
      PluginKind.closing]
  · next filled =>
    have known : r.Knows .generator style.name := by
      by_contra unknown
      exact filled (Registry.generatorsFor_eq_nil_iff.2 unknown)
    simp [Registry.unmet, known]

theorem gather_generatorsOf (styles : List ApiStyle) :
    gather (styles.map (generatorsOf r)) =
      (styles.flatMap r.generatorsFor, r.unmet .generator (styles.map (·.name))) := by
  have reported : styles.flatMap (fun style => r.unmet .generator [style.name]) =
      r.unmet .generator (styles.map (·.name)) := by
    induction styles with
    | nil => rfl
    | cons style styles ih =>
        rw [List.flatMap_cons, ih, Registry.unmet, Registry.unmet, Registry.unmet,
          ← List.map_append, ← List.filter_append]
        rfl
  simp only [gather, List.flatMap_map, generatorsOf_eq, reported]

theorem warnings_resolve :
    (resolve c r).warnings =
      r.unmet .parser [c.schema] ++ r.unmet .generator (c.styles.toList.map (·.name)) ++
        r.unmet .adapter c.adapter.toList ++ r.unmet .auth c.auth ++
        r.unmet .database c.database.toList ++ r.unmet .deploy c.deploy := by
  have parser : (parserFor c r).2 = r.unmet .parser [c.schema] := by
    rw [← snd_gather_found r r.map_parserFor]
    exact (List.append_nil _).symm
  rw [← parser, ← snd_gather_found r (r.map_tagged? .adapter rfl),
    ← snd_gather_found r (r.map_tagged? .auth rfl),
    ← snd_gather_found r (r.map_tagged? .database rfl),
    ← snd_gather_found r (r.map_tagged? .deploy rfl)]
  simp only [resolve, gather_generatorsOf]
  rfl

theorem filter_warnings (kind : PluginKind) :
    (resolve c r).warnings.filter (opensWith kind.opening) =
      match kind with
      | .parser => r.unmet .parser [c.schema]
      | .generator => r.unmet .generator (c.styles.toList.map (·.name))
      | .adapter => r.unmet .adapter c.adapter.toList
      | .auth => r.unmet .auth c.auth
      | .database => r.unmet .database c.database.toList
      | .deploy => r.unmet .deploy c.deploy := by
  rw [warnings_resolve]
  simp only [List.filter_append, Registry.filter_unmet]
  cases kind <;> simp

theorem toList_parser_resolve :
    (resolve c r).lineup.parser.toList = [c.schema].filterMap r.parserFor := by
  have one : (resolve c r).lineup.parser = (parserFor c r).1.head? := rfl
  rw [one, parserFor]
  cases found : r.parserFor c.schema <;> simp [Lineup.found, found]

theorem toList_head?_gather (warning : String → String) (look : String → Option α)
    (word : Option String) :
    (gather (word.toList.map fun w => found (warning w) (look w))).1.head?.toList =
      word.toList.filterMap look := by
  rw [fst_gather_found]
  cases word with
  | none => rfl
  | some word => cases found : look word <;> simp [found]

theorem toList_adapter_resolve :
    (resolve c r).lineup.adapter.toList = c.adapter.toList.filterMap r.adapter? :=
  toList_head?_gather _ _ _

theorem toList_database_resolve :
    (resolve c r).lineup.database.toList = c.database.toList.filterMap r.database? :=
  toList_head?_gather _ _ _

theorem generators_resolve :
    (resolve c r).lineup.generators = c.styles.toList.flatMap r.generatorsFor :=
  congrArg Prod.fst (gather_generatorsOf r c.styles.toList)

/-- A configuration is resolved word by word. Every word selects the first plugin of its kind that
answers to it, or there is a warning about it and none otherwise; and of generators those of the
enabled styles are selected, each of them once. -/
theorem resolve_accounts (history : List Plugin) :
    let r := Registry.ofList history
    let l := (resolve c r).lineup
    let styles := [ApiStyle.rest, .graphql, .trpc].filter c.styles.has
    r.Selects .parser [c.schema] (l.parser.toList.map .parser) ∧
    l.generators.map .generator =
      styles.flatMap (fun style => r.plugins.filter (·.style? = some style)) ∧
    (∀ g, g ∈ l.generators ↔ .generator g ∈ r.plugins ∧ c.styles.has g.style) ∧
    (l.generators.map (·.info.name)).Nodup ∧
    r.Selects .adapter c.adapter.toList (l.adapter.toList.map .adapter) ∧
    r.Selects .auth c.auth (l.auth.map .auth) ∧
    r.Selects .database c.database.toList (l.database.toList.map .database) ∧
    r.Selects .deploy c.deploy (l.deploy.map .deploy) ∧
    (resolve c r).warnings =
      r.unmet .parser [c.schema] ++ r.unmet .generator (styles.map (·.name)) ++
        r.unmet .adapter c.adapter.toList ++ r.unmet .auth c.auth ++
        r.unmet .database c.database.toList ++ r.unmet .deploy c.deploy ∧
    l.auth.length + ((resolve c r).warnings.filter (opensWith "auth strategy `")).length =
      c.auth.length ∧
    l.deploy.length + ((resolve c r).warnings.filter (opensWith "deploy target `")).length =
      c.deploy.length := by
  intro r l styles
  have distinct := Registry.nodup_keys_ofList history
  have apart : styles.Nodup := List.Nodup.filter _ (by decide)
  have generators : l.generators = styles.flatMap r.generatorsFor := generators_resolve c r
  have auth : r.Selects .auth c.auth (l.auth.map .auth) :=
    auth_resolve c r ▸ Registry.selects_filterMap (r.map_tagged? .auth rfl) c.auth
  have deploy : r.Selects .deploy c.deploy (l.deploy.map .deploy) :=
    deploy_resolve c r ▸ Registry.selects_filterMap (r.map_tagged? .deploy rfl) c.deploy
  refine ⟨?_, ?_, ?_, ?_, ?_, auth, ?_, deploy, warnings_resolve c r, ?_, ?_⟩
  · rw [toList_parser_resolve]
    exact Registry.selects_filterMap r.map_parserFor _
  · rw [generators, List.map_flatMap]
    simp only [Registry.map_generator_generatorsFor]
  · intro g
    rw [generators, List.mem_flatMap]
    simp only [Registry.mem_generatorsFor]
    constructor
    · rintro ⟨style, enabled, registered, rfl⟩
      exact ⟨registered, (List.mem_filter.1 enabled).2⟩
    · rintro ⟨registered, enabled⟩
      refine ⟨g.style, List.mem_filter.2 ⟨?_, enabled⟩, registered, rfl⟩
      cases g.style <;> decide
  · rw [generators]
    exact Registry.nodup_names_flatMap distinct apart
  · rw [toList_adapter_resolve]
    exact Registry.selects_filterMap (r.map_tagged? .adapter rfl) _
  · rw [toList_database_resolve]
    exact Registry.selects_filterMap (r.map_tagged? .database rfl) _
  · have reported := filter_warnings c r .auth
    rw [PluginKind.opening] at reported
    rw [reported, ← auth.length_add, List.length_map]
  · have reported := filter_warnings c r .deploy
    rw [PluginKind.opening] at reported
    rw [reported, ← deploy.length_add, List.length_map]

/-- Of two auth plugins of one strategy the first answers, each time that it is listed; what is
missing is reported word by word. -/
example :
    let r := Registry.ofList [(Stub.new "rest").plugin .generator,
      { Stub.new "tokens" with tag := "jwt" }.plugin .auth,
      { Stub.new "sessions" with tag := "jwt" }.plugin .auth]
    let c : Config := {
      schema := "schema.prisma", styles := { trpc := true }, auth := ["jwt", "oauth", "jwt"] }
    ((resolve c r).lineup.auth.map (·.info.name), (resolve c r).warnings) =
      (["tokens", "tokens"], ["no parser recognizes `schema.prisma`",
        "no generator registered for the `trpc` API style",
        "auth strategy `oauth` is not registered"]) := by
  decide

end Lineup

end Scaffold
