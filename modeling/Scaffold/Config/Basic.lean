import Scaffold.Merge.Strategy
import Scaffold.Options
import Scaffold.Path
import Scaffold.Text.Blank
import Scaffold.Toml.Basic

/-!
Configurations of a project: the schema, the plugins that it chooses by name, and settings.
-/

namespace Scaffold

structure Styles where
  rest : Bool := true
  graphql : Bool := false
  trpc : Bool := false
  deriving DecidableEq, Repr

namespace Styles

def has (s : Styles) : ApiStyle → Bool
  | .rest => s.rest
  | .graphql => s.graphql
  | .trpc => s.trpc

def toList (s : Styles) : List ApiStyle :=
  ApiStyle.all.filter s.has

end Styles

inductive LogFormat where
  | pretty | json
  deriving DecidableEq, Repr

instance : Json.Named LogFormat where
  all := [.pretty, .json]
  name
    | .pretty => "pretty"
    | .json => "json"

structure LogSettings where
  level : String := "info"
  format : LogFormat := .pretty
  deriving DecidableEq, Repr

structure Config where
  schema : String
  output : String := "generated"
  adapter : Option String := none
  auth : List String := []
  database : Option String := none
  deploy : List String := []
  styles : Styles := {}
  features : Features := {}
  logging : LogSettings := {}
  strategy : MergeStrategy := .lastWins
  strict : Bool := false
  plugins : Dict Toml := {}

inductive ConfigError where
  | unreadable
  | malformed
  | notFound (start : String)
  | invalid (problems : List String)
  deriving DecidableEq, Repr

def ConfigError.message : ConfigError → String
  | .unreadable => "Failed to read config file"
  | .malformed => "Failed to parse config file"
  | .notFound start => "Config file not found from: " ++ start
  | .invalid problems => "Invalid config: " ++ "; ".intercalate problems

namespace Config

def new (schema : String) : Config := { schema }

instance : Inhabited Config := ⟨new "schema.prisma"⟩

/-- Problems of a list of names: one for each blank entry, and one for each that stands further in
front as well. -/
def entryProblems (key : String) (seen : List String) : List String → List String
  | [] => []
  | entry :: entries =>
      if Text.blank entry then
        ("`" ++ key ++ "` contains an empty entry") :: entryProblems key seen entries
      else if seen.contains entry then
        ("`" ++ key ++ "` lists `" ++ entry ++ "` more than once") :: entryProblems key seen entries
      else entryProblems key (entry :: seen) entries

def blankProblem (key : String) (value : Option String) : List String :=
  if value.any Text.blank then ["`" ++ key ++ "` must not be empty when set"] else []

def problems (c : Config) : List String :=
  (if c.schema.isEmpty then ["`schema` must not be empty"] else [])
    ++ (if c.output.isEmpty then ["`output` must not be empty"] else [])
    ++ (if c.styles.toList.isEmpty then
      ["at least one of `api.rest`, `api.graphql` or `api.trpc` must be enabled"] else [])
    ++ entryProblems "auth" [] c.auth ++ entryProblems "deploy" [] c.deploy
    ++ blankProblem "adapter" c.adapter ++ blankProblem "database" c.database

def validate (c : Config) : Except ConfigError Config :=
  if c.problems.isEmpty then .ok c else .error (.invalid c.problems)

def relativeTo (c : Config) (base : String) : Config :=
  { c with schema := Path.join base c.schema, output := Path.join base c.output }

def extra (c : Config) : Dict Json.Value :=
  .ofList (c.plugins.entries.filterMap fun e => (Json.Value.ofJson? e.2.toJson).map (e.1, ·))

def generationOptions (c : Config) : GenerationOptions :=
  { GenerationOptions.new c.output c.schema with features := c.features, extra := c.extra }

end Config

end Scaffold
