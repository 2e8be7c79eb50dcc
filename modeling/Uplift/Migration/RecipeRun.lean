import Uplift.Migration.Provider
import Uplift.Recipe
/-! # Recipe runs

The recipes of a rule are put into one document in the project, and the build tool is run on it.

* `compositeOf` is the document of a rule; `command` is the run.
-/

namespace Uplift.Migration.RecipeRun

/-- The name of a rule's document. -/
def fileName (order : Int) : String := "rewrite-" ++ toString order ++ ".yml"

/-- The first text that is not empty. -/
def firstText (texts : List String) (otherwise : String) : String :=
  (texts.find? fun s => !s.isEmpty).getD otherwise

/-- The recipe that a rule's instructions make together, if they name any recipe. -/
def compositeOf? (r : Rule) (recipeName : String) : Option Composite :=
  let steps := r.instructions.openRewrite
  let entries := steps.flatMap (·.recipeList)
  if entries.isEmpty then none
  else some
    { name := recipeName ++ "." ++ r.id
      displayName := firstText (steps.map (·.name)) r.id
      description := firstText (steps.map (·.description)) r.description
      preconditions := steps.flatMap (·.preconditions)
      recipeList := entries }

/-- A list without what came before in it. -/
def distinct (xs : List String) : List String :=
  xs.foldl (fun acc x => if acc.contains x then acc else acc ++ [x]) []

/-- The artifacts that a rule's recipes come from. -/
def artifacts (r : Rule) : List String := distinct (r.instructions.openRewrite.flatMap (·.gav))

/-- The plugin of the build tool. -/
def plugin : String := "org.openrewrite.maven:rewrite-maven-plugin"

/-- The run of the build tool on a document. -/
def command (c : Context) (name path : String) (artifacts : List String) : Command where
  program := c.mavenCommand
  args :=
    let goal := if c.dryRun then "dryRun" else "run"
    let reports := Files.join (Files.join c.projectRoot "target/rewrite")
      (((Files.fileName? path).map Files.stem).getD "rewrite")
    ["-B", plugin ++ ":" ++ c.pluginVersion ++ ":" ++ goal, "-Drewrite.activeRecipes=" ++ name] ++
      (if artifacts.isEmpty then []
        else ["-Drewrite.recipeArtifactCoordinates=" ++ ",".intercalate artifacts]) ++
      ["-Drewrite.configLocation=" ++ path, "-DreportOutputDirectory=" ++ reports]
  workingDir := c.projectRoot
  timeoutMillis := c.timeoutMillis
  echo := c.verbose

/-- The outcome of a run, after `log`. -/
def outcomeOf (r : Rule) (recipes : Nat) (run : Command) (log : List String) :
    Except RunFailure Finished → Outcome
  | .ok f =>
    if f.success then
      Outcome.succeeded ("applied " ++ toString recipes ++ " recipe(s) for rule " ++ r.id)
        (log ++ f.lines)
    else
      Outcome.failed (run.program ++ " exited with status " ++ toString f.status) (log ++ f.lines)
  | .error e =>
    let e := runError run e
    failure (run.program ++ " did not complete") (log ++ e.output) e

/-- The path of a rule's document. -/
def documentPath (c : Context) (r : Rule) : String := Files.join c.projectRoot (fileName r.order)

/-- The provider of recipe runs. -/
def provider {σ : Type} (o : Outside σ) : Provider σ where
  kind := .openRewrite
  execute c r w :=
    match compositeOf? r c.recipeName with
    | none => (Outcome.failed ("no OpenRewrite recipes defined for rule " ++ r.id) [], w)
    | some composite =>
      match composite.document with
      | .error e => (failure "cannot build recipe document" [] (.recipeDocument e), w)
      | .ok document =>
        let path := documentPath c r
        match w.tree.writeText path document with
        | .error e => (failure "cannot write recipe document" [] (.io path e), w)
        | .ok tree =>
          let run := command c composite.name path (artifacts r)
          let (result, tree, outside) := o.run run tree w.outside
          let log := ["wrote recipe document " ++ path, "running " ++ run.text]
          (outcomeOf r composite.recipeList.length run log result, { tree, outside })

end Uplift.Migration.RecipeRun
