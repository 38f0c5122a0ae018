import Scaffold.Config.Basic
import Scaffold.Lineup.Basic
import Scaffold.Plugin.Registry

/-!
Lineups by configuration: each name is looked up in a registry, and one that is not found there is
reported.
-/

namespace Scaffold

structure Resolution where
  lineup : Lineup
  warnings : List String

namespace Lineup

def found (warning : String) : Option α → List α × List String
  | some a => ([a], [])
  | none => ([], [warning])

def gather (results : List (List α × List String)) : List α × List String :=
  (results.flatMap (·.1), results.flatMap (·.2))

def parserFor (c : Config) (r : Registry) : List Parser × List String :=
  found ("no parser recognizes `" ++ c.schema ++ "`") (r.parserFor c.schema)

def generatorsOf (r : Registry) (style : ApiStyle) : List Generator × List String :=
  match r.generatorsFor style with
  | [] => ([], ["no generator registered for the `" ++ style.name ++ "` API style"])
  | generators => (generators, [])

def adapterFor (r : Registry) (name : String) : List Adapter × List String :=
  found ("adapter `" ++ name ++ "` is not registered") (r.adapter? name)

def authFor (r : Registry) (name : String) : List Auth × List String :=
  found ("auth strategy `" ++ name ++ "` is not registered") (r.auth? name)

def databaseFor (r : Registry) (name : String) : List Database × List String :=
  found ("database adapter `" ++ name ++ "` is not registered") (r.database? name)

def deployFor (r : Registry) (name : String) : List Deploy × List String :=
  found ("deploy target `" ++ name ++ "` is not registered") (r.deploy? name)

def resolve (c : Config) (r : Registry) : Resolution :=
  let parser := parserFor c r
  let generators := gather (c.styles.toList.map (generatorsOf r))
  let adapter := gather (c.adapter.toList.map (adapterFor r))
  let auth := gather (c.auth.map (authFor r))
  let database := gather (c.database.toList.map (databaseFor r))
  let deploy := gather (c.deploy.map (deployFor r))
  { lineup := {
      parser := parser.1.head?
      generators := generators.1
      adapter := adapter.1.head?
      auth := auth.1
      database := database.1.head?
      deploy := deploy.1
      strategy := c.strategy
      strict := c.strict }
    warnings := parser.2 ++ generators.2 ++ adapter.2 ++ auth.2 ++ database.2 ++ deploy.2 }

end Lineup

end Scaffold
