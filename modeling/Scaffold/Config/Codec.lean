import Scaffold.Config.Basic
import Scaffold.Config.Tree
import Scaffold.Toml.Printer
import Scaffold.Toml.Reader

/-!
Configurations as TOML and as JSON. Members that hold their default as nothing, no list, no flag or no
table are left out.
-/

namespace Scaffold

open ConfigTree

namespace Styles

def keys : List String := ["rest", "graphql", "trpc"]

def toToml (s : Styles) : Toml :=
  .table [("rest", .boolean s.rest), ("graphql", .boolean s.graphql), ("trpc", .boolean s.trpc)]

def ofTree? [ConfigTree V] (v : V) : Option Styles := do
  let fields ← record? keys v
  return {
    rest := ← fields.defaulted "rest" true boolean?
    graphql := ← fields.defaulted "graphql" false boolean?
    trpc := ← fields.defaulted "trpc" false boolean? }

end Styles

namespace Features

def keys : List String :=
  ["validation", "pagination", "soft_delete", "timestamps", "openapi", "tests"]

def toToml (f : Features) : Toml :=
  .table [("validation", .boolean f.validation), ("pagination", .boolean f.pagination),
    ("soft_delete", .boolean f.softDelete), ("timestamps", .boolean f.timestamps),
    ("openapi", .boolean f.openapi), ("tests", .boolean f.tests)]

def ofTree? [ConfigTree V] (v : V) : Option Features := do
  let fields ← record? keys v
  return {
    validation := ← fields.defaulted "validation" true boolean?
    pagination := ← fields.defaulted "pagination" true boolean?
    softDelete := ← fields.defaulted "soft_delete" false boolean?
    timestamps := ← fields.defaulted "timestamps" true boolean?
    openapi := ← fields.defaulted "openapi" true boolean?
    tests := ← fields.defaulted "tests" false boolean? }

end Features

namespace LogSettings

def keys : List String := ["level", "format"]

def toToml (l : LogSettings) : Toml :=
  .table [("level", .string l.level), ("format", Toml.ofNamed l.format)]

def ofTree? [ConfigTree V] (v : V) : Option LogSettings := do
  let fields ← record? keys v
  return {
    level := ← fields.defaulted "level" "info" string?
    format := ← fields.defaulted "format" .pretty choice? }

end LogSettings

namespace MergeStrategy

def toToml (s : MergeStrategy) : Toml :=
  .table [("strategy", Toml.ofNamed s)]

def ofTree? [ConfigTree V] (v : V) : Option MergeStrategy := do
  let fields ← record? ["strategy"] v
  fields.defaulted "strategy" .lastWins choice?

end MergeStrategy

namespace Config

def keys : List String :=
  ["schema", "output", "adapter", "auth", "database", "deploy", "api", "features", "logging",
    "merge", "strict", "plugins"]

def toToml (c : Config) : Toml.Members :=
  [("schema", .string c.schema), ("output", .string c.output)]
    ++ Toml.textMember "adapter" c.adapter ++ Toml.listMember "auth" c.auth
    ++ Toml.textMember "database" c.database ++ Toml.listMember "deploy" c.deploy
    ++ [("api", c.styles.toToml), ("features", c.features.toToml), ("logging", c.logging.toToml),
      ("merge", c.strategy.toToml)]
    ++ Toml.flagMember "strict" c.strict ++ Toml.dictMember "plugins" c.plugins

def ofTree? [ConfigTree V] (v : V) : Option Config := do
  let fields ← record? keys v
  return {
    schema := ← fields.required "schema" string?
    output := ← fields.defaulted "output" "generated" string?
    adapter := ← optional fields "adapter" string?
    auth := ← fields.defaulted "auth" [] strings?
    database := ← optional fields "database" string?
    deploy := ← fields.defaulted "deploy" [] strings?
    styles := ← fields.defaulted "api" {} Styles.ofTree?
    features := ← fields.defaulted "features" {} Features.ofTree?
    logging := ← fields.defaulted "logging" {} LogSettings.ofTree?
    strategy := ← fields.defaulted "merge" .lastWins MergeStrategy.ofTree?
    strict := ← fields.defaulted "strict" false boolean?
    plugins := ← fields.defaulted "plugins" {} dict? }

/-- Two configurations are equal when they encode alike; floats compare as numbers. -/
instance : BEq Config := ⟨fun c d => Toml.table c.toToml == .table d.toToml⟩

def toJson (c : Config) : Json :=
  (Toml.table c.toToml).toJson

def document (c : Config) : String :=
  Toml.document c.toToml

def ofDocument (text : String) : Except ConfigError Config :=
  match (Toml.read? text).bind fun entries => ofTree? (Toml.table entries) with
  | some c => c.validate
  | none => .error .malformed

end Config

end Scaffold
