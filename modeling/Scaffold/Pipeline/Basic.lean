import Scaffold.Lineup.Resolve
import Scaffold.Pipeline.Stage

/-!
Pipelines: a lineup with hooks around its stages, transforms, filters, and an emitter for what is left.
-/

namespace Scaffold

structure Transform (α : Type) where
  name : String
  apply : α → Except String α

abbrev SchemaTransform := Transform Schema

abbrev BundleTransform := Transform Bundle

/-- A file is kept if every filter accepts it. `warnings` are reported by every run. -/
structure Pipeline where
  lineup : Lineup
  hooks : List Hook := []
  schemaTransforms : List SchemaTransform := []
  bundleTransforms : List BundleTransform := []
  filters : List (OutputFile → Bool) := []
  emitter : Option Emitter := none
  warnings : List String := []

namespace Pipeline

def ofConfig (c : Config) (r : Registry) : Pipeline :=
  let resolution := Lineup.resolve c r
  { lineup := resolution.lineup
    emitter := some { directory := c.output }
    warnings := resolution.warnings }

private def namesText (names : List String) : String :=
  Text.bracketed (names.map Text.quoted)

def describe (p : Pipeline) : String :=
  "Pipeline \x7b orchestrator: " ++ p.lineup.describe
    ++ ", hooks: " ++ Nat.repr p.hooks.length
    ++ ", schema_transforms: " ++ namesText (p.schemaTransforms.map (·.name))
    ++ ", code_transforms: " ++ namesText (p.bundleTransforms.map (·.name))
    ++ ", filters: " ++ Nat.repr p.filters.length
    ++ ", emitter: " ++ p.emitter.elim "None" (fun e => "Some(" ++ e.describe ++ ")") ++ " \x7d"

end Pipeline

end Scaffold
