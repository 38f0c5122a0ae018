import Scaffold.Emit.Basic
import Scaffold.Lineup.Run

/-!
Stages of a pipeline, the notices about them that hooks receive, and the errors that end a run.
-/

namespace Scaffold

inductive Stage where
  | parse | validate | transform | generate | postProcess | write
  deriving DecidableEq, Repr

namespace Stage

def all : List Stage := [.parse, .validate, .transform, .generate, .postProcess, .write]

def name : Stage → String
  | .parse => "parse"
  | .validate => "validate"
  | .transform => "transform"
  | .generate => "generate"
  | .postProcess => "postProcess"
  | .write => "write"

instance : Json.Named Stage := ⟨all, name⟩

end Stage

inductive PipelineError where
  | run (error : RunError)
  | validation (errors : List String)
  | transform (name message : String)
  | emit (fault : DirectoryFault)
  | file (fault : FileError)
  deriving DecidableEq, Repr

def PipelineError.message : PipelineError → String
  | .run e => e.message
  | .validation errors => "Validation failed: " ++ "; ".intercalate errors
  | .transform name message => "Transform `" ++ name ++ "` failed: " ++ message
  | .emit fault => fault.message
  | .file fault => fault.message

inductive StageEvent where
  | before
  | after
  | failed (error : PipelineError)
  deriving DecidableEq, Repr

structure Notice where
  stage : Stage
  event : StageEvent
  deriving DecidableEq, Repr

/-- An observer of a pipeline. It may fail to take a notice, which is nobody's concern but its own. -/
structure Hook where
  name : Option String := none
  respond : Notice → Except String Unit := fun _ => .ok ()

end Scaffold
