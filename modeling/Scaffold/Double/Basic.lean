import Scaffold.Double.Bare
import Scaffold.Double.Script
import Scaffold.Lineup.Run
import Scaffold.Plugin.Stub
import Scaffold.Schema.Codec

/-!
Doubles: plugins that a document describes, to try lineups with, and what they note of the calls that
were made on them.
-/

namespace Scaffold

inductive Double where
  | stub (kind : PluginKind) (stub : Stub)
  | script (kind : PluginKind) (script : Script)
  | bare (kind : PluginKind) (name : String) (handle : Nat)

namespace PluginError

def word : PluginError → String
  | .parse _ => "Parse"
  | .execution _ => "Execution"
  | .configuration _ => "Configuration"
  | .dependency _ => "Dependency"
  | .unsupported _ => "Unsupported"

def ofJson? : Json → Option PluginError
  | .object members => do
      let message ← Fields.required members "message" Json.string?
      let kind ← Fields.required members "kind" Json.string?
      [parse, execution, configuration, dependency, unsupported].findSome? fun make =>
        if (make message).word = kind then some (make message) else none
  | _ => none

end PluginError

private def int32? (j : Json) : Option Int := do
  let n ← j.integer?
  if -0x80000000 ≤ n ∧ n < 0x80000000 then some n else none

private def fixedFile? : Json → Option OutputFile
  | .array [.string path, .string content] => some { path, content }
  | _ => none

private def dependencies? (ms : Json.Members) (key : String) : Option (List Dependency) :=
  ms.defaulted key [] (Json.list? Dependency.ofJson?)

namespace Stub

def ofMembers? (ms : Json.Members) (handle : Nat) : Option Stub := do
  let name ← ms.required "name" Json.string?
  let middleware ← ms.defaulted "middleware" [] (Json.list? Json.string?)
  return {
    name
    handle
    priority := ← ms.defaulted "priority" 0 int32?
    style := ← ms.defaulted "style" .rest Json.choice?
    tag := ← ms.defaulted "tag" name Json.string?
    extensions := ← ms.defaulted "extensions" ["json"] (Json.list? Json.string?)
    schema := ← ms.optional "schema" Schema.ofJson?
    sourceWarnings := ← ms.defaulted "source_warnings" [] (Json.list? Json.string?)
    files := ← ms.defaulted "files" [] (Json.list? fixedFile?)
    dependencies := ← dependencies? ms "dependencies"
    peerDependencies := ← dependencies? ms "peer_dependencies"
    migrations := ← ms.optional "migrations" Bundle.ofJson?
    middleware := middleware.map middlewareNamed
    replace := ← ms.defaulted "replace" false Json.bool?
    failure := ← ms.optional "fail" PluginError.ofJson? }

end Stub

namespace Script

def ofMembers? (ms : Json.Members) (handle : Nat) : Option Script := do
  let name ← ms.required "name" Json.string?
  let info : PluginInfo := {
    name
    version := ← ms.defaulted "version" "1.0.0" Json.string?
    priority := ← ms.defaulted "priority" 0 int32?
    dependencies := ← dependencies? ms "dependencies"
    peerDependencies := ← dependencies? ms "peer_dependencies"
    handle }
  return {
    info
    style := ← ms.defaulted "style" .rest Json.choice?
    tag := ← ms.defaulted "tag" name Json.string?
    extensions := ← ms.defaulted "extensions" [] (Json.list? Json.string?)
    code := ← ms.defaulted "code" {} Bundle.ofJson?
    echo := ← ms.defaulted "echo" false Json.bool?
    migrations := ← ms.optional "migrations" Bundle.ofJson?
    middleware := ← ms.defaulted "middleware" [] (Json.list? Middleware.ofJson?)
    failure := ← ms.optional "fail" PluginError.ofJson? }

end Script

namespace Double

/-- Reads a description. The type may be left out for a stub. -/
def ofJson? (handle : Nat) : Json → Option Double
  | .object ms => do
      let kind : PluginKind ← Fields.required ms "kind" Json.choice?
      match ← Fields.defaulted ms "type" "stub" Json.string? with
      | "stub" => return .stub kind (← Stub.ofMembers? ms handle)
      | "script" => return .script kind (← Script.ofMembers? ms handle)
      | "bare" => return .bare kind (← Fields.required ms "name" Json.string?) handle
      | _ => none
  | _ => none

def listOfJson? (j : Json) : Option (List Double) := do
  let descriptions ← Json.list? some j
  descriptions.zipIdx.mapM fun (d, handle) => ofJson? handle d

def plugin : Double → Plugin
  | .stub kind s => s.plugin kind
  | .script kind s => s.plugin kind
  | .bare kind name handle => Bare.plugin name handle kind

end Double

namespace Call

def handle : Call → Nat
  | .parse p _ _ => p.info.handle
  | .perform s _ => s.info.handle

def seenPaths? : Call → Option (List String)
  | .perform (.adapter _) input | .perform (.deploy _) input => some input.bundle.paths
  | _ => none

/-- Whether a stub counts the call; it does not count migrations. -/
def isCounted : Call → Bool
  | .perform (.migrations _ _) _ => false
  | _ => true

def note : Call → Json
  | .parse _ source options =>
      .object [("bytes", .ofNat source.length), ("path", Json.ofOption .string options.filePath),
        ("strict", .bool options.strict)]
  | .perform (.migrations _ previous) input =>
      .object [("models", .ofNat input.schema.models.length),
        ("previous_models", .ofNat previous.models.length)]
  | .perform (.adapter _) input | .perform (.deploy _) input =>
      bundleGiven input.bundle input.options
  | .perform _ input => schemaGiven input.schema input.options

end Call

namespace Stub

def counts (calls : List Call) : Json.Members :=
  [("calls", .ofNat (calls.filter Call.isCounted).length),
    ("seen", Json.ofList .strings (calls.filterMap Call.seenPaths?))]

end Stub

namespace Double

def record (calls : List Call) (d : Double) : Json :=
  let mine := calls.filter fun c => c.handle == d.plugin.info.handle
  let name := Json.member "name" (.string d.plugin.name)
  match d with
  | .stub _ _ => .object (name ++ Stub.counts mine)
  | .script _ _ => .object (name ++ Json.member "seen" (Json.ofList Call.note mine))
  | .bare _ _ _ => .object name

end Double

end Scaffold
