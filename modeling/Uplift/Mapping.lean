import Uplift.Query
import Uplift.Routing
import Uplift.MatchIds
import Uplift.Recipe
/-! # Mapping queries to requests

A scanner answers requests of its own kind. Which mapper makes a request of a query depends on what
the query looks for and on the scanner; a pair without a mapper cannot be served.

* `MapperTable.map` makes the request.
* `MapperTable.validate` checks that every route of a table has a mapper.
-/

namespace Uplift

/-- What a scanner is asked. -/
inductive Request where
  | recipe (recipe : Recipe)
  | symbol (symbol query : String)
  | dependency (gavs : String)
  | file (name content : Option String)
deriving DecidableEq

/-- How a search is written as a recipe. -/
structure SearchRecipe where
  key : String
  recipe : String
  /-- The option that each parameter becomes. -/
  renames : List (String × String)
  /-- Options that are always set. -/
  defaults : List (String × Bool)

namespace SearchRecipe

/-- The option that a parameter becomes. -/
def option? (t : SearchRecipe) (param : String) : Option String := t.renames.lookup param

/-- The searches that have a recipe. -/
def all : List SearchRecipe :=
  [{ key := "java.annotation"
     recipe := "dev.snowdrop.openrewrite.java.search.FindAnnotations"
     renames := [("name", "pattern")]
     defaults := [("matchOnMetaAnnotations", false)] },
   { key := "java.method"
     recipe := "dev.snowdrop.openrewrite.java.search.FindMethods"
     renames := [("name", "methodPattern")]
     defaults := [("matchOverrides", false)] },
   { key := "pom.dependency"
     recipe := "dev.snowdrop.openrewrite.maven.search.FindDependency"
     renames := [("gavs", "gavs"), ("groupId", "groupId"), ("artifactId", "artifactId"),
       ("version", "version")]
     defaults := [] }]

/-- The recipe of a query key. -/
def of? (key : String) : Option SearchRecipe := all.find? (·.key = key)

/-- The options that parameters become, in the order of the parameters. -/
def options (t : SearchRecipe) (params : List (String × String)) : List (String × Value) :=
  params.filterMap fun (k, v) => (t.option? k).map fun o => (o, .str v)

/-- The recipe for parameters, under a match id. -/
def apply (t : SearchRecipe) (params : List (String × String)) (id : String) : Recipe where
  name := t.recipe
  options := t.options params ++ [(Recipe.matchIdOption, .str id)] ++
    t.defaults.map fun (o, b) => (o, .bool b)

end SearchRecipe

/-- A way to make a request. -/
inductive Mapper where
  | recipe | symbol | dependency | fileName | fileContent
deriving DecidableEq, Repr

namespace Mapper

/-- A search by recipe. It draws a match id last, so that a query that cannot be mapped draws
none. -/
def recipeRequest (q : Query) (rule : String) (ids : MatchIds) :
    Except Fault (Request × MatchIds) := do
  let some t := SearchRecipe.of? q.key | .error (.configuration (.noSearchRecipe q.key))
  if q.asks "pom" "dependency" then
    if (q.param? "gavs").isNone && (q.param? "groupId").isNone then
      .error (.missingParameter "gavs" q.key)
  else
    let _ ← q.require "name"
  let (id, ids) ← ids.draw rule
  .ok (.recipe (t.apply q.params id), ids)

/-- The coordinates that a query asks for: a list of them, or one in parts. -/
def coordinates (q : Query) : Except Fault String :=
  match (q.param? "gavs").or (q.param? "name") with
  | some gavs => .ok gavs
  | none =>
    match q.param? "groupId", q.param? "artifactId", q.param? "version" with
    | some g, some a, some v => .ok (g ++ ":" ++ a ++ ":" ++ v)
    | some g, some a, none => .ok (g ++ ":" ++ a)
    | some g, none, _ => .ok g
    | none, _, _ => .error (.missingParameter "gavs" q.key)

/-- The request for a query, and the match ids after it. -/
def run (m : Mapper) (q : Query) (rule : String) (ids : MatchIds) :
    Except Fault (Request × MatchIds) :=
  match m with
  | recipe => recipeRequest q rule ids
  | symbol => do .ok (.symbol q.symbol (← q.require "name"), ids)
  | dependency => do .ok (.dependency (← coordinates q), ids)
  | fileName => do .ok (.file (some (← q.require "name")) none, ids)
  | fileContent => do .ok (.file (q.param? "filePattern") (some (← q.require "pattern")), ids)

end Mapper

/-- The mappers by shape and scanner. -/
abbrev MapperTable := List ((Shape × ScannerKind) × Mapper)

namespace MapperTable

/-- The mappers of the scanners that are built in. -/
def builtin : MapperTable :=
  [((.annotationUse, .openRewrite), .recipe), ((.method, .openRewrite), .recipe),
    ((.dependency, .openRewrite), .recipe), ((.annotationUse, .jdtls), .symbol),
    ((.method, .jdtls), .symbol), ((.classDecl, .jdtls), .symbol), ((.symbol, .jdtls), .symbol),
    ((.dependency, .maven), .dependency), ((.file, .file), .fileName),
    ((.content, .file), .fileContent)]

/-- A pair has a mapper. -/
def supports (t : MapperTable) (shape : Shape) (scanner : ScannerKind) : Bool :=
  (t.lookup (shape, scanner)).isSome

/-- The request for a query, and the match ids after it. -/
def map (t : MapperTable) (shape : Shape) (scanner : ScannerKind) (q : Query) (rule : String)
    (ids : MatchIds) : Except Fault (Request × MatchIds) :=
  match t.lookup (shape, scanner) with
  | some m => m.run q rule ids
  | none => .error (.configuration (.noMapper shape scanner))

/-- The first route without a mapper is a fault. -/
def validate (t : MapperTable) (routing : RoutingTable) : Except Fault Unit :=
  match routing.routes.find? fun r => !t.supports r.shape r.scanner with
  | some r => .error (.configuration (.unmappedRoute r.description r.shape r.scanner))
  | none => .ok ()

end MapperTable

end Uplift
