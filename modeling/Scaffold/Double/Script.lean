import Scaffold.Bundle.Codec
import Scaffold.Json.Printer
import Scaffold.Plugin.Basic
import Scaffold.Schema.Document

/-!
Scripted plugins: each answers with a bundle that was fixed beforehand, and can add a file that tells
what it was handed.
-/

namespace Scaffold

structure Script where
  info : PluginInfo
  style : ApiStyle := .rest
  tag : String
  extensions : List String := []
  code : Bundle := {}
  echo : Bool := false
  migrations : Option Bundle := none
  middleware : List Middleware := []
  failure : Option PluginError := none

def schemaGiven (schema : Schema) (options : GenerationOptions) : Json :=
  .object [("schema", schema.toJson), ("options", options.toJson)]

def bundleGiven (bundle : Bundle) (options : GenerationOptions) : Json :=
  .object [("code", bundle.toJson), ("output", .string options.output)]

namespace Script

def echoOf (s : Script) (given : Json) : OutputFile where
  path := s.info.name ++ ".echo.json"
  content := given.canonical.compact

def produce (s : Script) (given : Json) : Except PluginError Bundle :=
  match s.failure with
  | some e => .error e
  | none => .ok (if s.echo then s.code.addFile (s.echoOf given) else s.code)

def parse (s : Script) (source : Source) : Except PluginError Schema := do
  if let some e := s.failure then throw e
  match Schema.ofDocument (← source.readText) with
  | .ok schema => return schema
  | .error .malformed => throw (.parse "not IR JSON")
  | .error e => throw (.parse e.message)

def plugin (s : Script) : PluginKind → Plugin
  | .parser => .parser {
      info := s.info
      extensions := s.extensions
      parse := fun source _ => s.parse source }
  | .generator => .generator {
      info := s.info
      style := s.style
      generate := fun schema options => s.produce (schemaGiven schema options) }
  | .adapter => .adapter {
      info := s.info
      framework := s.tag
      adapt := fun bundle options => s.produce (bundleGiven bundle options) }
  | .auth => .auth {
      info := s.info
      strategy := s.tag
      generate := fun schema options => s.produce (schemaGiven schema options)
      middleware := s.middleware }
  | .database => .database {
      info := s.info
      library := s.tag
      generate := fun schema options => s.produce (schemaGiven schema options)
      migrations := fun _ _ => .ok s.migrations }
  | .deploy => .deploy {
      info := s.info
      target := s.tag
      generate := fun bundle options => s.produce (bundleGiven bundle options) }

end Script

end Scaffold
