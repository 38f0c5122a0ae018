import Scaffold.Plugin.Basic
import Scaffold.Schema.Relations

/-!
Stubs: plugins that stand in for any kind, with answers fixed beforehand.
-/

namespace Scaffold

structure Stub where
  name : String
  priority : Int := 0
  style : ApiStyle := .rest
  tag : String
  extensions : List String := ["json"]
  schema : Option Schema := none
  sourceWarnings : List String := []
  files : List OutputFile := []
  dependencies : List Dependency := []
  peerDependencies : List Dependency := []
  migrations : Option Bundle := none
  middleware : List Middleware := []
  replace : Bool := false
  failure : Option PluginError := none
  handle : Nat := 0

namespace Stub

def new (name : String) : Stub := { name, tag := name }

def info (s : Stub) : PluginInfo where
  name := s.name
  version := "0.0.0-test"
  priority := s.priority
  dependencies := s.dependencies
  peerDependencies := s.peerDependencies
  handle := s.handle

def middlewareNamed (name : String) : Middleware where
  name := name
  importPath := "./middleware/" ++ name

def enter (s : Stub) : Except PluginError Unit :=
  match s.failure with
  | some e => .error e
  | none => .ok ()

def output (s : Stub) : Bundle := { files := s.files }

def generate (s : Stub) : Except PluginError Bundle := do
  s.enter
  return s.output

/-- The fixed schema, or an empty one, with the path of the source. In strict mode the stub's warnings
make it fail. -/
def parse (s : Stub) (options : ParseOptions) : Except PluginError Schema := do
  s.enter
  if options.strict && !s.sourceWarnings.isEmpty then
    throw (.parse ("; ".intercalate s.sourceWarnings))
  let schema := s.schema.getD (Schema.new { name := "stub", source := s.name } [] [])
  match options.filePath with
  | some path => return { schema with metadata := { schema.metadata with filePath := some path } }
  | none => return schema

def check (s : Stub) : Report := .ofFindings [] s.sourceWarnings

def adapt (s : Stub) (bundle : Bundle) : Except PluginError Bundle := do
  s.enter
  if s.replace then return s.output
  return { bundle with files := bundle.files ++ s.files }

def migrate (s : Stub) (previous : Option Schema) : Except PluginError (Option Bundle) :=
  .ok (previous.bind fun _ => s.migrations)

def parser (s : Stub) : Parser where
  info := s.info
  extensions := s.extensions
  parse _ options := s.parse options
  check _ := s.check

def generator (s : Stub) : Generator where
  info := s.info
  style := s.style
  generate _ _ := s.generate

def adapter (s : Stub) : Adapter where
  info := s.info
  framework := s.tag
  adapt bundle _ := s.adapt bundle

def auth (s : Stub) : Auth where
  info := s.info
  strategy := s.tag
  generate _ _ := s.generate
  middleware := s.middleware

def database (s : Stub) : Database where
  info := s.info
  library := s.tag
  generate _ _ := s.generate
  migrations _ previous := s.migrate previous

def deploy (s : Stub) : Deploy where
  info := s.info
  target := s.tag
  generate _ _ := s.generate

def plugin (s : Stub) : PluginKind → Plugin
  | .parser => .parser s.parser
  | .generator => .generator s.generator
  | .adapter => .adapter s.adapter
  | .auth => .auth s.auth
  | .database => .database s.database
  | .deploy => .deploy s.deploy

end Stub

end Scaffold
