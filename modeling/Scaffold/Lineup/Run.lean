import Scaffold.Lineup.Basic

/-!
Runs: the plugins of a lineup are asked one after the other, in an order that is fixed beforehand. A
run keeps the calls that it made; the first plugin that fails, and the first collision that the
strategy does not allow, end it.
-/

namespace Scaffold

inductive RunError where
  | noParser
  | parser (name : String) (error : PluginError)
  | plugin (error : PluginError)
  | merge (error : MergeError)
  deriving DecidableEq, Repr

def RunError.message : RunError → String
  | .noParser => "no parser registered"
  | .parser name e => "parser `" ++ name ++ "` failed: " ++ e.message
  | .plugin e => e.message
  | .merge e => e.message

structure StepInput where
  schema : Schema
  options : GenerationOptions
  bundle : Bundle

inductive Step where
  | generator (g : Generator)
  | adapter (a : Adapter)
  | auth (a : Auth)
  | database (d : Database)
  | migrations (d : Database) (previous : Schema)
  | deploy (d : Deploy)

namespace Step

def info : Step → PluginInfo
  | .generator g => g.info
  | .adapter a => a.info
  | .auth a => a.info
  | .database d => d.info
  | .migrations d _ => d.info
  | .deploy d => d.info

/-- What the plugin returns. Only migrations may be missing. -/
def answer (s : Step) (input : StepInput) : Except PluginError (Option Bundle) :=
  match s with
  | .generator g => some <$> g.generate input.schema input.options
  | .adapter a => some <$> a.adapt input.bundle input.options
  | .auth a => some <$> a.generate input.schema input.options
  | .database d => some <$> d.generate input.schema input.options
  | .migrations d previous => d.migrations input.schema (some previous)
  | .deploy d => some <$> d.generate input.bundle input.options

/-- What the plugin's answer is merged into. The answer of an adapter takes the place of all that was
there. -/
def base (s : Step) (bundle : Bundle) : Bundle :=
  match s with
  | .adapter _ => .empty
  | _ => bundle

def advance (strategy : MergeStrategy) (s : Step) (input : StepInput) : Except RunError Bundle :=
  match s.answer input with
  | .error e => .error (.plugin e)
  | .ok none => .ok input.bundle
  | .ok (some output) => (Bundle.merge strategy (s.base input.bundle) output).mapError .merge

/-- The name that a step adds to the contributors. Migrations count with their database plugin. -/
def contributor? : Step → Option String
  | .migrations _ _ => none
  | s => some s.info.name

end Step

inductive Call where
  | parse (p : Parser) (source : Source) (options : ParseOptions)
  | perform (s : Step) (input : StepInput)

structure Run (α : Type) where
  calls : List Call
  result : Except RunError α

namespace Lineup

def plan (l : Lineup) : List Step :=
  l.orderedGenerators.map .generator
    ++ l.adapter.toList.map .adapter
    ++ l.orderedAuth.map .auth
    ++ l.database.toList.flatMap (fun d =>
      .database d :: l.previous.toList.map (.migrations d))
    ++ l.orderedDeploy.map .deploy

def perform (l : Lineup) (schema : Schema) (options : GenerationOptions) :
    List Step → Bundle → Run Bundle
  | [], bundle => ⟨[], .ok bundle⟩
  | s :: steps, bundle =>
      let input : StepInput := ⟨schema, options, bundle⟩
      match s.advance l.strategy input with
      | .error e => ⟨[.perform s input], .error e⟩
      | .ok next =>
          let rest := l.perform schema options steps next
          ⟨.perform s input :: rest.calls, rest.result⟩

def finishExtra (l : Lineup) (extra : Dict Json.Value) : Dict Json.Value :=
  if l.middleware.isEmpty then extra
  else extra.insert "middleware" (Middleware.listValue l.middleware)

def finish (l : Lineup) (now : Instant) (bundle : Bundle) : Bundle where
  files := bundle.files
  dependencies := mergeDependencies bundle.dependencies l.declaredDependencies
  metadata := some {
    generatedAt := some now
    contributors := l.plan.filterMap Step.contributor?
    extra := l.finishExtra (bundle.metadata.getD {}).extra }

def generateFrom (l : Lineup) (now : Instant) (schema : Schema) (options : GenerationOptions) :
    Run Bundle :=
  let run := l.perform schema options l.plan .empty
  ⟨run.calls, run.result.map (l.finish now)⟩

def parse (l : Lineup) (source : Source) (path : Option String) : Run Schema :=
  match l.parser with
  | none => ⟨[], .error .noParser⟩
  | some p =>
      let options : ParseOptions := ⟨path, l.strict⟩
      ⟨[.parse p source options],
        (p.parse source options).mapError (.parser p.info.name)⟩

def generate (l : Lineup) (now : Instant) (source : Source) (path : Option String)
    (options : GenerationOptions) : Run Bundle :=
  let parsed := l.parse source path
  match parsed.result with
  | .error e => ⟨parsed.calls, .error e⟩
  | .ok schema =>
      let run := l.generateFrom now schema options
      ⟨parsed.calls ++ run.calls, run.result⟩

end Lineup

end Scaffold
