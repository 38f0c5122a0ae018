import Scaffold.Emit.Write
import Scaffold.Lineup.Run

/-!
Watches: a lineup that runs again whenever its schema file has changed, and what is reported of each
run.
-/

namespace Scaffold.Watch

/-- The quiet window `debounce` is in milliseconds. With `watchFiles` changes of the schema file are seen. -/
structure Options where
  schemaPath : String
  generation : GenerationOptions
  debounce : Nat := 300
  emitter : Option Emitter := none
  initialRun : Bool := true
  watchFiles : Bool := true

inductive Fault where
  | file (fault : FileError)
  | run (error : RunError)
  | emit (fault : DirectoryFault)
  deriving DecidableEq, Repr

def Fault.message : Fault → String
  | .file fault => "I/O error: " ++ fault.message
  | .run e => e.message
  | .emit fault => fault.message

inductive Event where
  | generated (files dependencies : Nat) (report : Option WriteReport)
  | failed (fault : Fault)

def Event.isError : Event → Bool
  | .failed _ => true
  | .generated _ _ _ => false

def Event.members : Event → Json.Members
  | .generated files dependencies report =>
      [("files", .ofNat files), ("dependencies", .ofNat dependencies),
        ("report", Json.ofOption WriteReport.toJson report)]
  | .failed fault => [("failed", .string fault.message)]

def Event.toJson (e : Event) : Json :=
  .object (e.members ++ [("is_error", .bool e.isError)])

def generate (l : Lineup) (o : Options) (now : Instant) (t : FileTree) :
    List Call × Except Fault Bundle :=
  match t.read o.schemaPath with
  | .error fault => ([], .error (.file fault))
  | .ok content =>
      let run := l.generate now (.ofContent content) (some o.schemaPath) o.generation
      (run.calls, run.result.mapError .run)

def publish (o : Options) (t : FileTree) : Except Fault Bundle → FileTree × Event
  | .error fault => (t, .failed fault)
  | .ok bundle =>
      let generated := Event.generated bundle.files.length bundle.dependencies.length
      match o.emitter with
      | none => (t, generated none)
      | some e =>
          match e.write t bundle with
          | (t, .ok report) => (t, generated (some report))
          | (t, .error fault) => (t, .failed (.emit fault))

def Options.directory (o : Options) : String :=
  match Path.parent? o.schemaPath with
  | some parent => if parent.isEmpty then "." else parent
  | none => "."

def subscriptionError? (o : Options) (t : FileTree) : Option String :=
  let text (cause : String) : String :=
    "watch error: " ++ cause ++ " about " ++ Text.bracketed [Text.quoted o.directory]
  if o.watchFiles then
    match t.stat o.directory with
    | .ok _ => none
    | .error .notFound => some (text "No path was found.")
    | .error .nulInPath => some (text "data provided contains a nul byte")
    | .error fault => some (text fault.message)
  else none

/-- Whether a change of a file concerns the schema file: it has its name and is in its directory. -/
def Options.concerns (o : Options) (t : FileTree) (path : String) : Bool :=
  let place (p : String) : Option Location :=
    ((t.stat ((Path.parent? p).getD ".")).toOption).map (·.1)
  Path.fileName? path == Path.fileName? o.schemaPath && place path == place o.schemaPath

end Scaffold.Watch
