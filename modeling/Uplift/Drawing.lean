import Uplift.Mapping
/-! # Mapping as it draws

The mappers as computations over one supply of match ids. A mapper draws a match id while it builds
a recipe, and what is drawn stays drawn whatever happens afterwards.

* `Drawing`: such a computation. It gives nothing back when it fails.
* `Mapper.make`, `MapperTable.make`: the mappers, step by step.
-/

namespace Uplift

/-- A computation over a supply of match ids. What it drew before it failed stays drawn. -/
abbrev Drawing := ExceptT Fault (StateM MatchIds)

/-- A result with the supply that it leaves, which is the one before if there is no result. -/
def settled {α : Type} (ids : MatchIds) : Except Fault (α × MatchIds) → Except Fault α × MatchIds
  | .ok (a, left) => (.ok a, left)
  | .error f => (.error f, ids)

namespace Drawing

/-- Draws the next id of a rule. -/
def next (rule : String) : Drawing String := fun ids => settled ids (ids.draw rule)

/-- A result for which nothing is drawn. -/
def ofExcept {α : Type} (result : Except Fault α) : Drawing α := fun ids => (result, ids)

end Drawing

/-- A recipe with options put in one after the other. -/
def Recipe.withOptions (r : Recipe) (options : List (String × Value)) : Recipe :=
  options.foldl (fun r (key, v) => r.withOption key v) r

namespace Mapper

/-- The recipe of a search: the options of the parameters, a match id, which is drawn when its turn
has come, and the options that are always set. -/
def recipeUnder (t : SearchRecipe) (q : Query) (rule : String) : Drawing Request := do
  let recipe := (Recipe.mk t.recipe []).withOptions (t.options q.params)
  let id ← Drawing.next rule
  let recipe := recipe.withOption Recipe.matchIdOption (.str id)
  return .recipe (recipe.withOptions (t.defaults.map fun (o, b) => (o, .bool b)))

/-- The recipe of a query that has what its search needs. -/
def makeRecipe (q : Query) (rule : String) : Drawing Request :=
  match SearchRecipe.of? q.key with
  | none => Drawing.ofExcept (.error (.configuration (.noSearchRecipe q.key)))
  | some t =>
    if q.asks "pom" "dependency" then
      if (q.param? "gavs").isNone && (q.param? "groupId").isNone then
        Drawing.ofExcept (.error (.missingParameter "gavs" q.key))
      else recipeUnder t q rule
    else do
      let _ ← Drawing.ofExcept (q.require "name")
      recipeUnder t q rule

/-- The request for a query, made step by step. -/
def make (m : Mapper) (q : Query) (rule : String) : Drawing Request :=
  match m with
  | recipe => makeRecipe q rule
  | symbol => do return .symbol q.symbol (← Drawing.ofExcept (q.require "name"))
  | dependency => do return .dependency (← Drawing.ofExcept (coordinates q))
  | fileName => do return .file (some (← Drawing.ofExcept (q.require "name"))) none
  | fileContent => do
    return .file (q.param? "filePattern") (some (← Drawing.ofExcept (q.require "pattern")))

end Mapper

/-- The request for a query, made step by step by the mapper of its shape and scanner. -/
def MapperTable.make (t : MapperTable) (shape : Shape) (scanner : ScannerKind) (q : Query)
    (rule : String) : Drawing Request :=
  match t.lookup (shape, scanner) with
  | some m => m.make q rule
  | none => Drawing.ofExcept (.error (.configuration (.noMapper shape scanner)))

end Uplift
