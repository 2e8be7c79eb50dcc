import Uplift.Scan.Scanner
import Uplift.Table.Rows
/-! # Search by recipe

Lets the build tool carry a search out: writes a document with the search recipe, runs the tool
without changing sources, and reads the rows of the search from the tables that the run wrote. The
document is removed afterwards, whatever came of the run.
-/

namespace Uplift.Scan.RecipeSearch

/-- The name of a search recipe. -/
def recipeName (id : String) : String := "dev.mtool.scan." ++ id

/-- The document of a search. -/
def document (recipe : Recipe) (q : Query) (id : String) : String :=
  Composite.toYaml
    { name := recipeName id, displayName := id, description := q.text
      recipeList := [recipe.toEntry] }

/-- The directory of search documents. -/
def recipeDir (c : Context) : String := Files.join c.root c.config.build.scanRecipeDir

/-- The path of a search document. -/
def recipePath (c : Context) (id : String) : String :=
  Files.join (recipeDir c) ("scan-" ++ id ++ ".yml")

/-- The directory of data tables. -/
def tablesDir (c : Context) : String := Files.join c.root c.config.build.datatablesDir

/-- The run of the build tool. -/
def command (c : Context) (id : String) : Command where
  program := c.config.build.mavenCommand
  args :=
    ["-B",
      "org.openrewrite.maven:rewrite-maven-plugin:" ++ c.config.build.pluginVersion ++ ":dryRun",
      "-Drewrite.activeRecipes=" ++ recipeName id,
      "-Drewrite.recipeArtifactCoordinates=" ++
        ",".intercalate c.config.build.searchRecipeArtifacts,
      "-Drewrite.configLocation=" ++ recipePath c id,
      "-Drewrite.exportDatatables=true"]
  workingDir := c.root
  timeoutMillis := 1000 * c.config.build.timeoutSecs

/-- The tree without a file, if it can be removed. -/
def remove (path : String) (t : Files.Tree) : Files.Tree :=
  match t.removeFile path with
  | .ok t => t
  | .error _ => t

/-- The match of a row: its source is the row's own, else the table. -/
def rowMatch (table : String) (r : TableRow) : Match :=
  let source := ((r.column? "Source path").or (r.column? "sourcePath")).getD table
  ⟨source, .openRewrite, .row r⟩

/-- A path without the directory that it begins with. -/
def relativePath (root path : String) : String :=
  match strip (Files.parts root) (Files.parts path) with
  | some steps => Files.ofSteps steps
  | none => path
where
  /-- The steps after those of a directory. -/
  strip : List Files.Step → List Files.Step → Option (List Files.Step)
    | [], rest => some rest
    | a :: as, b :: bs => if a = b then strip as bs else none
    | _ :: _, [] => none

/-- The matches in a table. -/
def inTable (root id : String) (t : Files.Tree) (table : String) :
    Except ScanError (List Match) := do
  let rows ← Table.readRows t table id
  .ok (rows.map (rowMatch (relativePath root table)))

/-- The matches in the tables that were not there before. -/
def newMatches (c : Context) (id : String) (before : List String) (t : Files.Tree) :
    Except ScanError (List Match) := do
  let tables ← Table.files t (tablesDir c)
  let found ← (tables.filter fun p => !before.contains p).mapM (inTable c.root id t)
  .ok found.flatten

/-- The run of a search whose document is written. -/
def runSearch {σ : Type} (o : Outside σ) (c : Context) (id : String) : ScanM σ (List Match) := do
  let before ← ScanM.read fun t => Table.files t (tablesDir c)
  let run := command c id
  let finished ← ScanM.execute o run
  if finished.success then ScanM.read (newMatches c id before)
  else ScanM.ofExcept (.error (.exited run.program finished.status finished.lines))

/-- The scanner. -/
def scanner {σ : Type} (o : Outside σ) : Scanner σ where
  kind := .openRewrite
  supports q := (SearchRecipe.of? q.key).isSome
  scan c q := do
    match ← c.request .openRewrite q with
    | .recipe recipe =>
      match recipe.matchId? with
      | none => ScanM.ofExcept (.error (.state (.noMatchId recipe.name)))
      | some id =>
        let path := recipePath c id
        -- A document that cannot be written is not removed either.
        ScanM.write (recipeDir c) path (document recipe q id)
        (runSearch o c id).andThen (remove path)
    | _ => ScanM.ofExcept (.error (.state (.foreignRequest .openRewrite)))

end Uplift.Scan.RecipeSearch
