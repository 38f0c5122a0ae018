import Scaffold.Lineup.Priority
import Scaffold.Merge.Bundles

/-!
Lineups: the plugins that were chosen for a run, in the order of their registration, and how the run
goes about collisions and warnings.
-/

namespace Scaffold

/-- The schema `previous` is that of the run before, from which migrations start. With `strict` the
warnings of the parser count as errors. -/
structure Lineup where
  parser : Option Parser := none
  generators : List Generator := []
  adapter : Option Adapter := none
  auth : List Auth := []
  database : Option Database := none
  deploy : List Deploy := []
  strategy : MergeStrategy := .lastWins
  previous : Option Schema := none
  strict : Bool := false

namespace Lineup

def empty : Lineup := {}

instance : Inhabited Lineup := ⟨empty⟩

/-- Adds a plugin. There is one parser, one adapter and one database plugin: the last one added. -/
def add (l : Lineup) : Plugin → Lineup
  | .parser p => { l with parser := some p }
  | .generator g => { l with generators := l.generators ++ [g] }
  | .adapter a => { l with adapter := some a }
  | .auth a => { l with auth := l.auth ++ [a] }
  | .database d => { l with database := some d }
  | .deploy d => { l with deploy := l.deploy ++ [d] }

def ofPlugins (ps : List Plugin) : Lineup :=
  ps.foldl add empty

def orderedGenerators (l : Lineup) : List Generator :=
  byPriority (·.info) l.generators

def orderedAuth (l : Lineup) : List Auth :=
  byPriority (·.info) l.auth

def orderedDeploy (l : Lineup) : List Deploy :=
  byPriority (·.info) l.deploy

def addMiddleware (known : List Middleware) (m : Middleware) : List Middleware :=
  if known.any (·.name == m.name) then known else known ++ [m]

/-- The middleware of all auth plugins in the order in which these run, each name once. -/
def middleware (l : Lineup) : List Middleware :=
  (l.orderedAuth.flatMap (·.middleware)).foldl addMiddleware []

/-- The plugins that take part after parsing, in the order in which their declared dependencies are
merged. -/
def declaring (l : Lineup) : List PluginInfo :=
  l.adapter.toList.map (·.info) ++ l.generators.map (·.info) ++ l.auth.map (·.info)
    ++ l.database.toList.map (·.info) ++ l.deploy.map (·.info)

def declaredDependencies (l : Lineup) : List Dependency :=
  (l.declaring.flatMap fun i => [i.dependencies, i.peerDependencies]).foldl mergeDependencies []

def check (l : Lineup) : Report :=
  .ofFindings
    ((if l.parser.isNone then ["no parser registered"] else [])
      ++ (if l.generators.isEmpty then ["no generator registered"] else []))
    ((if l.adapter.isNone then
        ["no adapter registered; output is not wired to a web framework"] else [])
      ++ (if l.auth.isEmpty then
        ["no auth plugin registered; generated endpoints are unauthenticated"] else [])
      ++ (if l.database.isNone then
        ["no database plugin registered; no data access layer is generated"] else []))

def promote (r : Report) : Report :=
  r.warnings.foldl .addError { r with warnings := [] }

def checkSource (l : Lineup) (source : Source) : Report :=
  let report :=
    match l.parser with
    | some p => p.check source
    | none => .ok
  if l.strict then promote report else report

private def optionText : Option String → String
  | some name => "Some(" ++ Text.quoted name ++ ")"
  | none => "None"

private def names (infos : List PluginInfo) : String :=
  Text.bracketed (infos.map fun i => Text.quoted i.name)

def describe (l : Lineup) : String :=
  "Orchestrator \x7b parser: " ++ optionText (l.parser.map (·.info.name))
    ++ ", generators: " ++ names (l.generators.map (·.info))
    ++ ", adapter: " ++ optionText (l.adapter.map (·.info.name))
    ++ ", auth: " ++ names (l.auth.map (·.info))
    ++ ", database: " ++ optionText (l.database.map (·.info.name))
    ++ ", deploy: " ++ names (l.deploy.map (·.info))
    ++ ", strategy: " ++ l.strategy.word ++ ", strict: " ++ toString l.strict ++ " \x7d"

end Lineup

end Scaffold
