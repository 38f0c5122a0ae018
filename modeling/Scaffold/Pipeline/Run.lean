import Scaffold.Emit.Write
import Scaffold.Pipeline.Activity
import Scaffold.Pipeline.Basic
import Scaffold.Schema.Check

/-!
Running pipelines: six stages one after the other, the first failure of which ends the run.
-/

namespace Scaffold

/-- What a run that went through all stages has produced. `schema` is the one after the transforms,
`filtered` the paths of the files that filters refused. -/
structure Production where
  schema : Schema
  bundle : Bundle
  warnings : List String
  filtered : List String
  report : Option WriteReport

namespace Pipeline

def findings (p : Pipeline) (source : Source) (schema : Schema) : Report :=
  (p.lineup.check.merge (p.lineup.checkSource source)).merge schema.check

def validated (p : Pipeline) (source : Source) (schema : Schema) :
    Except PipelineError (List String) :=
  let report := p.findings source schema
  if report.errors.isEmpty then .ok report.warnings else .error (.validation report.errors)

def validate (p : Pipeline) (source : Source) (schema : Schema) : Job (List String) := fun t =>
  ⟨p.lineup.parser.toList.map (.check · source), [], t, p.validated source schema⟩

def transform (applied : String → Activity) : List (Transform α) → α → Job α
  | [], a => .pure a
  | f :: fs, a => fun t =>
      match f.apply a with
      | .error message => ⟨[applied f.name], [], t, .error (.transform f.name message)⟩
      | .ok next =>
          let rest := transform applied fs next t
          { rest with activities := applied f.name :: rest.activities }

def keeps (p : Pipeline) (file : OutputFile) : Bool :=
  p.filters.all (· file)

def sift (p : Pipeline) (bundle : Bundle) : Bundle × List String :=
  ({ bundle with files := bundle.files.filter p.keeps },
    (bundle.files.filter fun f => !p.keeps f).map (·.path))

def emit (p : Pipeline) (bundle : Bundle) : Job (Option WriteReport) := fun t =>
  match p.emitter with
  | none => ⟨[], [], t, .ok none⟩
  | some e =>
      let (t, result) := e.write t bundle
      ⟨[.emission e bundle], [], t, (result.map some).mapError .emit⟩

def failureWarnings (report : Option WriteReport) : List String :=
  (report.elim [] (·.failed)).map fun (path, fault) =>
    "failed to write `" ++ path ++ "`: " ++ fault.message

def run (p : Pipeline) (now : Instant) (source : Source) (path : Option String)
    (options : GenerationOptions) : Job Production :=
  (Job.stage p.hooks .parse (.ofRun (p.lineup.parse source path))).andThen fun parsed =>
  (Job.stage p.hooks .validate (p.validate source parsed)).andThen fun warnings =>
  (Job.stage p.hooks .transform
    (transform .schemaTransform p.schemaTransforms parsed)).andThen fun schema =>
  (Job.stage p.hooks .generate (.ofRun (p.lineup.generateFrom now schema options))).andThen
    fun generated =>
  (Job.stage p.hooks .postProcess
    ((transform .bundleTransform p.bundleTransforms generated).andThen
      fun b => .pure (p.sift b))).andThen
    fun (bundle, filtered) =>
  (Job.stage p.hooks .write (p.emit bundle)).andThen fun report =>
  .pure {
    schema
    bundle
    warnings := p.warnings ++ warnings ++ failureWarnings report
    filtered
    report }

def runFile (p : Pipeline) (now : Instant) (path : String) (options : GenerationOptions) :
    Job Production := fun t =>
  match t.read path with
  | .error fault => ⟨[], [], t, .error (.file fault)⟩
  | .ok content => p.run now (.ofContent content) (some path) options t

end Pipeline

end Scaffold
