import Scaffold.Json.Codec

/-!
Options that every plugin of a run receives. Every section has defaults.
-/

namespace Scaffold

inductive ApiStyle where
  | rest | graphql | trpc
  deriving DecidableEq, Repr

namespace ApiStyle

def name : ApiStyle → String
  | .rest => "rest"
  | .graphql => "graphql"
  | .trpc => "trpc"

def all : List ApiStyle := [.rest, .graphql, .trpc]

instance : Json.Named ApiStyle := ⟨all, name⟩

end ApiStyle

inductive Paging where
  | offset | cursor
  deriving DecidableEq, Repr

instance : Json.Named Paging where
  all := [.offset, .cursor]
  name
    | .offset => "offset"
    | .cursor => "cursor"

structure PaginationOptions where
  strategy : Paging := .offset
  defaultLimit : UInt32 := 20
  maxLimit : UInt32 := 100
  deriving DecidableEq, Repr

structure RestOptions where
  base : String := "/api/v1"
  pagination : PaginationOptions := {}
  versioning : Bool := false
  deriving DecidableEq, Repr

structure GraphqlOptions where
  path : String := "/graphql"
  playground : Bool := true
  subscriptions : Bool := false
  deriving DecidableEq, Repr

structure TrpcOptions where
  routerName : String := "appRouter"
  transformer : Option String := some "superjson"
  deriving DecidableEq, Repr

structure Features where
  validation : Bool := true
  pagination : Bool := true
  softDelete : Bool := false
  timestamps : Bool := true
  openapi : Bool := true
  tests : Bool := false
  deriving DecidableEq, Repr

structure GenerationOptions where
  output : String := "generated"
  schema : String := ""
  rest : RestOptions := {}
  graphql : GraphqlOptions := {}
  trpc : TrpcOptions := {}
  features : Features := {}
  extra : Dict Json.Value := {}

instance : Inhabited GenerationOptions := ⟨{}⟩

namespace PaginationOptions

def toJson (o : PaginationOptions) : Json :=
  .object [("strategy", Json.ofNamed o.strategy), ("defaultLimit", .ofNat o.defaultLimit.toNat),
    ("maxLimit", .ofNat o.maxLimit.toNat)]

def ofJson? (j : Json) : Option PaginationOptions := do
  let ms ← j.record? ["strategy", "defaultLimit", "maxLimit"]
  return {
    strategy := ← ms.defaulted "strategy" .offset Json.choice?
    defaultLimit := ← ms.defaulted "defaultLimit" 20 Json.uint32?
    maxLimit := ← ms.defaulted "maxLimit" 100 Json.uint32? }

end PaginationOptions

namespace RestOptions

def toJson (o : RestOptions) : Json :=
  .object [("prefix", .string o.base), ("pagination", o.pagination.toJson),
    ("versioning", .bool o.versioning)]

def ofJson? (j : Json) : Option RestOptions := do
  let ms ← j.record? ["prefix", "pagination", "versioning"]
  return {
    base := ← ms.defaulted "prefix" "/api/v1" Json.string?
    pagination := ← ms.defaulted "pagination" {} PaginationOptions.ofJson?
    versioning := ← ms.defaulted "versioning" false Json.bool? }

end RestOptions

namespace GraphqlOptions

def toJson (o : GraphqlOptions) : Json :=
  .object [("path", .string o.path), ("playground", .bool o.playground),
    ("subscriptions", .bool o.subscriptions)]

def ofJson? (j : Json) : Option GraphqlOptions := do
  let ms ← j.record? ["path", "playground", "subscriptions"]
  return {
    path := ← ms.defaulted "path" "/graphql" Json.string?
    playground := ← ms.defaulted "playground" true Json.bool?
    subscriptions := ← ms.defaulted "subscriptions" false Json.bool? }

end GraphqlOptions

namespace TrpcOptions

def toJson (o : TrpcOptions) : Json :=
  .object [("routerName", .string o.routerName),
    ("transformer", Json.ofOption .string o.transformer)]

def ofJson? (j : Json) : Option TrpcOptions := do
  let ms ← j.record? ["routerName", "transformer"]
  return {
    routerName := ← ms.defaulted "routerName" "appRouter" Json.string?
    transformer := ← ms.defaulted "transformer" (some "superjson") fun
      | .null => some none
      | j => j.string?.map some }

end TrpcOptions

namespace Features

def toJson (f : Features) : Json :=
  .object [("validation", .bool f.validation), ("pagination", .bool f.pagination),
    ("softDelete", .bool f.softDelete), ("timestamps", .bool f.timestamps),
    ("openapi", .bool f.openapi), ("tests", .bool f.tests)]

def ofJson? (j : Json) : Option Features := do
  let ms ← j.record?
    ["validation", "pagination", "softDelete", "timestamps", "openapi", "tests"]
  return {
    validation := ← ms.defaulted "validation" true Json.bool?
    pagination := ← ms.defaulted "pagination" true Json.bool?
    softDelete := ← ms.defaulted "softDelete" false Json.bool?
    timestamps := ← ms.defaulted "timestamps" true Json.bool?
    openapi := ← ms.defaulted "openapi" true Json.bool?
    tests := ← ms.defaulted "tests" false Json.bool? }

end Features

namespace GenerationOptions

def new (output schema : String) : GenerationOptions :=
  { output, schema }

def withOutput (o : GenerationOptions) (output : String) : GenerationOptions :=
  { o with output }

def extra? (o : GenerationOptions) (key : String) : Option Json.Value :=
  o.extra.get? key

def toJson (o : GenerationOptions) : Json :=
  .object
    ([("output", .string o.output), ("schema", .string o.schema), ("rest", o.rest.toJson),
        ("graphql", o.graphql.toJson), ("trpc", o.trpc.toJson), ("features", o.features.toJson)]
      ++ Json.dictMember "extra" Json.Value.tree o.extra)

def ofJson? (j : Json) : Option GenerationOptions := do
  let ms ← j.record? ["output", "schema", "rest", "graphql", "trpc", "features", "extra"]
  return {
    output := ← ms.defaulted "output" "generated" Json.string?
    schema := ← ms.defaulted "schema" "" Json.string?
    rest := ← ms.defaulted "rest" {} RestOptions.ofJson?
    graphql := ← ms.defaulted "graphql" {} GraphqlOptions.ofJson?
    trpc := ← ms.defaulted "trpc" {} TrpcOptions.ofJson?
    features := ← ms.defaulted "features" {} Features.ofJson?
    extra := ← ms.defaulted "extra" {} (Json.dict? Json.Value.ofJson?) }

end GenerationOptions

end Scaffold
