import Uplift.Migration.RecipeRun
import Uplift.Proofs.Files.Proper
import Uplift.Proofs.Files.Spelled
import Uplift.Proofs.Recipe
import Uplift.Proofs.Yaml.Layout
import Uplift.Proofs.Yaml.Tags

/-!
# What a recipe run writes, starts and reports

* `Outside.watched`: the same programs, and a list of the commands that are started.
* `FirstOccurrences`: the members of a list, each once, as they come up first
  (`firstOccurrences_distinct`).
* `Holds`: what stands in the document of a rule, as a value (`valueOf`) and line by line
  (`holds_of_document`).
* `Course`: how a recipe run goes. It ends before anything is started if there is no text for the
  document, which no catalog's rule brings about (`document_of_parse`), or if the text is not
  written. Else one process is started, and what it prints is kept.
* `execute_course`: every run with recipes takes such a course, in a dry run with the other goal.
-/

namespace Uplift.Migration

open Uplift.Files

variable {σ : Type}

/-! ## Watching -/

/-- The same programs, and the commands that are started, each with the files as they stand then. -/
def Outside.watched (o : Outside σ) : Outside (σ × List (Command × Tree)) where
  run command tree outside :=
    let (result, after, kept) := o.run command tree outside.1
    (result, after, (kept, outside.2 ++ [(command, tree)]))
  chat request tree outside :=
    let (answer, after, kept) := o.chat request tree outside.1
    (answer, after, (kept, outside.2))
  console := o.console

/-- The world with what was started up to now. -/
def World.watch (w : World σ) (started : List (Command × Tree)) :
    World (σ × List (Command × Tree)) :=
  ⟨w.tree, (w.outside, started)⟩

namespace RecipeRun

/-! ## Artifacts -/

/-- The second list has the members of the first, each once, in the order in which they come up
first. -/
structure FirstOccurrences (xs ys : List String) : Prop where
  mem : ∀ x, x ∈ ys ↔ x ∈ xs
  ordered : ys.Pairwise fun a b => xs.idxOf a < xs.idxOf b

theorem FirstOccurrences.unique {xs ys zs : List String} (first : FirstOccurrences xs ys)
    (second : FirstOccurrences xs zs) : ys = zs := by
  have nodup {l : List String} (l_first : FirstOccurrences xs l) : l.Nodup :=
    l_first.ordered.imp fun before same => absurd (same ▸ before) (Nat.lt_irrefl _)
  have perm : ys.Perm zs := (List.perm_ext_iff_of_nodup (nodup first) (nodup second)).mpr fun x =>
    (first.mem x).trans (second.mem x).symm
  exact perm.eq_of_pairwise (fun a b _ _ before after => absurd before (Nat.lt_asymm after))
    first.ordered second.ordered

theorem distinct_concat (xs : List String) (x : String) :
    distinct (xs ++ [x]) = if x ∈ distinct xs then distinct xs else distinct xs ++ [x] := by
  simp [distinct, List.foldl_append]

theorem firstOccurrences_distinct (xs : List String) : FirstOccurrences xs (distinct xs) := by
  induction xs using List.reverseRecOn with
  | nil => exact ⟨fun _ => Iff.rfl, .nil⟩
  | append_singleton xs x ih =>
    -- What came up before still comes up where it did.
    have early : (distinct xs).Pairwise fun a b => (xs ++ [x]).idxOf a < (xs ++ [x]).idxOf b := by
      refine ih.ordered.imp_of_mem fun first second before => ?_
      rwa [List.idxOf_append_of_mem ((ih.mem _).mp first),
        List.idxOf_append_of_mem ((ih.mem _).mp second)]
    rw [distinct_concat]
    by_cases old : x ∈ distinct xs
    · rw [if_pos old]
      refine ⟨fun y => ?_, early⟩
      rw [List.mem_append, List.mem_singleton, ih.mem]
      exact ⟨.inl, fun member => member.elim id fun same => same ▸ (ih.mem x).mp old⟩
    · have new : x ∉ xs := mt (ih.mem x).mpr old
      rw [if_neg old]
      refine ⟨fun y => by rw [List.mem_append, List.mem_append, ih.mem], ?_⟩
      refine List.pairwise_append.mpr ⟨early, List.pairwise_singleton _ _, ?_⟩
      intro a first b last
      obtain rfl := List.mem_singleton.mp last
      have there := (ih.mem a).mp first
      rw [List.idxOf_append_of_mem there, List.idxOf_append_of_notMem new]
      exact Nat.lt_of_lt_of_le (List.idxOf_lt_length_of_mem there) (Nat.le_add_right ..)

/-! ## The document -/

variable {r : Rule} {name : String}

theorem compositeOf?_of_empty (noRecipes : ∀ i ∈ r.instructions.openRewrite, i.recipeList = []) :
    compositeOf? r name = none := by
  have empty : r.instructions.openRewrite.flatMap (·.recipeList) = [] :=
    List.flatMap_eq_nil_iff.mpr noRecipes
  simp [compositeOf?, empty]

/-- The first text that is not empty. -/
def named (texts : List String) (otherwise : String) : String :=
  (texts.find? (· ≠ "")).getD otherwise

/-- What the document of a rule has besides preconditions and recipes. -/
def headOf (c : Context) (r : Rule) : List (String × Value) :=
  let steps := r.instructions.openRewrite
  [("type", .str "specs.openrewrite.org/v1beta/recipe"),
    ("name", .str (c.recipeName ++ "." ++ r.id)),
    ("displayName", .str (named (steps.map (·.name)) r.id)),
    ("description", .str (named (steps.map (·.description)) r.description))]

/-- All preconditions of a rule's instructions. -/
def preconditionsOf (r : Rule) : List Value := r.instructions.openRewrite.flatMap (·.preconditions)

/-- All recipes of a rule's instructions. -/
def recipesOf (r : Rule) : List Value := r.instructions.openRewrite.flatMap (·.recipeList)

/-- A list under a name, unless it is empty. -/
def listField (name : String) (items : List Value) : List (String × Value) :=
  if items = [] then [] else [(name, .seq items)]

/-- The document of a rule as a value. -/
def valueOf (c : Context) (r : Rule) : Value :=
  .record (headOf c r ++ listField "preconditions" (preconditionsOf r) ++
    listField "recipeList" (recipesOf r))

/-- The lines of a list under a name: each item has the lines that it would have alone. -/
def listText (name : String) (items : List Value) : String :=
  if items = [] then ""
  else name ++ ":\n" ++ String.join (items.map fun v => Yaml.write (.seq [v]))

/-- The text is the document of a rule. -/
structure Holds (c : Context) (r : Rule) (text : String) : Prop where
  /-- It is the text of the rule's value. -/
  written : text = Yaml.write (valueOf c r)
  /-- The head comes first, then each precondition, then each recipe. -/
  layout : text = Yaml.write (.record (headOf c r)) ++
    listText "preconditions" (preconditionsOf r) ++ listText "recipeList" (recipesOf r)
  /-- A reader that finds the value in it has all preconditions and recipes as they were. -/
  restored : Yaml.read? text = some (valueOf c r) →
    ∃ document, Composite.ofYaml text = .ok document ∧
      document.name = c.recipeName ++ "." ++ r.id ∧ document.preconditions = preconditionsOf r ∧
      document.recipeList = recipesOf r

theorem firstText_eq (texts : List String) (otherwise : String) :
    firstText texts otherwise = named texts otherwise := by
  have same : (fun s : String => !s.isEmpty) = fun s => decide (s ≠ "") := by
    funext s
    by_cases empty : s = "" <;> simp [empty]
  rw [firstText, same, named]

/-- A rule with a recipe has a document, with the value that `valueOf` says. -/
theorem compositeOf?_of_recipe {c : Context}
    (recipe : ∃ i ∈ r.instructions.openRewrite, i.recipeList ≠ []) :
    ∃ document, compositeOf? r c.recipeName = some document ∧
      document.type = Composite.documentType ∧ document.name = c.recipeName ++ "." ++ r.id ∧
      document.recipeList = recipesOf r ∧ document.preconditions = preconditionsOf r ∧
      document.toValue = valueOf c r := by
  have filled : recipesOf r ≠ [] := by
    obtain ⟨i, member, own⟩ := recipe
    exact fun empty => own (List.flatMap_eq_nil_iff.mp empty i member)
  refine ⟨_, if_neg (by simpa [recipesOf] using filled), rfl, rfl, rfl, rfl, ?_⟩
  simp only [Composite.toValue, valueOf, headOf, listField, if_neg filled, firstText_eq,
    List.isEmpty_iff]
  rfl

/-- A list under a name has its lines. -/
theorem join_listField {name : String} {items : List Value}
    (simple : Yaml.isSimpleKey (.str name) = true) (plain : Yaml.styleOf name true = .plain) :
    String.join ((listField name items).map fun f => Yaml.write (.record [f])) =
      listText name items := by
  by_cases empty : items = []
  · simp [listField, listText, empty]
  · simp only [listField, listText, if_neg empty, List.map_singleton]
    rw [Yaml.write_record_seq simple plain empty, Yaml.write_seq_join empty]
    simp

theorem write_valueOf (c : Context) (r : Rule) :
    Yaml.write (valueOf c r) = Yaml.write (.record (headOf c r)) ++
      listText "preconditions" (preconditionsOf r) ++ listText "recipeList" (recipesOf r) := by
  have head : headOf c r ≠ [] := by simp [headOf]
  rw [valueOf, Yaml.write_record_join (by simp [head]), Yaml.write_record_join head]
  simp only [List.map_append, String.join_append]
  rw [join_listField (by decide) (by decide), join_listField (by decide) (by decide)]

/-- The text that is written for a rule is its document. -/
theorem holds_of_document {c : Context} {document : Composite} {text : String}
    (typed : document.type = Composite.documentType)
    (name : document.name = c.recipeName ++ "." ++ r.id)
    (recipes : document.recipeList = recipesOf r)
    (preconditions : document.preconditions = preconditionsOf r)
    (value : document.toValue = valueOf c r) (built : document.document = .ok text) :
    Holds c r text := by
  unfold Composite.document at built
  split at built
  · obtain rfl := Except.ok.inj built
    rw [Composite.toYaml, value]
    refine ⟨rfl, write_valueOf c r, fun restored => ⟨document, ?_, name, preconditions, recipes⟩⟩
    rw [← value] at restored ⊢
    exact document.ofYaml_toYaml typed restored
  · cases built

theorem tagsApart_toValue {document : Composite}
    (preconditions : ∀ v ∈ document.preconditions, Yaml.tagsApart v = true)
    (recipes : ∀ v ∈ document.recipeList, Yaml.tagsApart v = true) :
    Yaml.tagsApart document.toValue = true := by
  have first := Yaml.itemsTagsApart_iff.mpr preconditions
  have second := Yaml.itemsTagsApart_iff.mpr recipes
  unfold Composite.toValue
  split <;> simp [Value.record, Yaml.tagsApart, Yaml.entriesTagsApart, first, second]

/-- The document of a rule as a catalog holds it can be written. -/
theorem document_of_parse {text origin : String} {rules : List Rule} {document : Composite}
    (parsed : Catalog.parse text origin = .ok rules) (member : r ∈ rules)
    (recipes : document.recipeList = recipesOf r)
    (preconditions : document.preconditions = preconditionsOf r) :
    document.document = .ok document.toYaml := by
  have apart := Catalog.tagsApart_of_parse parsed member
  refine if_pos (tagsApart_toValue ?_ ?_)
  · intro v there
    rw [preconditions] at there
    obtain ⟨i, step, own⟩ := List.mem_flatMap.mp there
    exact (apart i step).1 v own
  · intro v there
    rw [recipes] at there
    obtain ⟨i, step, own⟩ := List.mem_flatMap.mp there
    exact (apart i step).2 v own

/-! ## The course of a run -/

/-- The file that a path leads to has a text now, and no other place has changed. -/
def Writes (t : Tree) (path text : String) (t' : Tree) : Prop :=
  ∃ p executable, t.locate path = .ok p ∧
    t'.get? p = some (.file (Text.toBytes text) executable) ∧ ∀ q, q ≠ p → t'.get? q = t.get? q

theorem writes_of_writeText {t t' : Tree} {path text : String}
    (written : t.writeText path text = .ok t') : Writes t path text t' := by
  obtain ⟨p, x, found, here, rfl⟩ := Tree.writeText_put written
  have filled : p ≠ [] := (Tree.replaceable_of_here here).ne_nil
  refine ⟨p, x, found, ?_, fun q other => ?_⟩
  · rw [Tree.get?_put t _ p filled, if_pos rfl]
  · rw [Tree.get?_put t _ q filled, if_neg other]

/-- The lines that a process printed until it ended or was stopped. -/
def printed : Except RunFailure Finished → List String
  | .ok f => f.lines
  | .error (.timeout lines) => lines
  | .error (.spawn _) => []

/-- How a recipe run goes: the outcome, the processes that are started, each with the files as they
stand then, and the world afterwards. -/
inductive Course (o : Outside σ) (built : Except Fault String) (path : String) (run : Command)
    (w : World σ) : Outcome → List (Command × Tree) → World σ → Prop where
  | unbuilt {e : Fault} (failed : built = .error e) :
      Course o built path run w (failure "cannot build recipe document" [] (.recipeDocument e)) [] w
  | unwritten {text : String} {e : FileError} (done : built = .ok text)
      (failed : w.tree.writeText path text = .error e) :
      Course o built path run w (failure "cannot write recipe document" [] (.io path e)) [] w
  | ran {text : String} {tree after : Tree} {result : Except RunFailure Finished} {outside : σ}
      {outcome : Outcome} (done : built = .ok text) (writes : Writes w.tree path text tree)
      (ended : o.run run tree w.outside = (result, after, outside))
      (success : outcome.success = true ↔ ∃ lines, result = .ok ⟨0, lines⟩)
      (details : outcome.details =
        ["wrote recipe document " ++ path, "running " ++ run.text] ++ printed result) :
      Course o built path run w outcome [(run, tree)] ⟨after, outside⟩

variable {run : Command} {log : List String} {recipes : Nat} {result : Except RunFailure Finished}

theorem success_outcomeOf :
    (outcomeOf r recipes run log result).success = true ↔ ∃ lines, result = .ok ⟨0, lines⟩ := by
  rcases result with e | ⟨status, lines⟩
  · simp [outcomeOf, failure, Outcome.failed]
  · by_cases zero : status = 0
    · simp [outcomeOf, Finished.success, zero, Outcome.succeeded]
    · simp [outcomeOf, Finished.success, zero, Outcome.failed]

theorem details_outcomeOf :
    (outcomeOf r recipes run log result).details = log ++ printed result := by
  rcases result with (cause | lines) | f
  · rfl
  · rfl
  · simp only [outcomeOf]
    split <;> rfl

/-! ## Runs -/

/-- What the build tool is told about a document besides its goal. -/
def optionsOf (c : Context) (name path : String) (artifacts : List String) : List String :=
  ["-Drewrite.activeRecipes=" ++ name] ++
    (if artifacts = [] then []
      else ["-Drewrite.recipeArtifactCoordinates=" ++ ",".intercalate artifacts]) ++
    ["-Drewrite.configLocation=" ++ path,
      "-DreportOutputDirectory=" ++ Files.join (Files.join c.projectRoot "target/rewrite")
        (((Files.fileName? path).map Files.stem).getD "rewrite")]

/-- The build tool with a goal of its plugin. -/
def processOf (c : Context) (goal : String) (options : List String) : Command where
  program := c.mavenCommand
  args := "-B" :: (plugin ++ ":" ++ c.pluginVersion ++ ":" ++ goal) :: options
  workingDir := c.projectRoot
  timeoutMillis := c.timeoutMillis
  echo := c.verbose

variable {o : Outside σ} {c : Context} {w : World σ} {document : Composite}

theorem command_eq (dry : Bool) (name path : String) (artifacts : List String) :
    command { c with dryRun := dry } name path artifacts =
      processOf c (if dry then "dryRun" else "run") (optionsOf c name path artifacts) := by
  simp [command, processOf, optionsOf]

/-- A run with recipes takes its course, and watching it changes nothing. -/
theorem course_of_composite (composite : compositeOf? r c.recipeName = some document)
    (started : List (Command × Tree)) :
    ∃ outcome new w', (provider o).execute c r w = (outcome, w') ∧
      (provider o.watched).execute c r (w.watch started) = (outcome, w'.watch (started ++ new)) ∧
      Course o document.document (documentPath c r)
        (command c document.name (documentPath c r) (artifacts r)) w outcome new w' := by
  cases built : document.document with
  | error e =>
    refine ⟨_, [], w, ?_, ?_, .unbuilt rfl⟩
    · simp [provider, composite, built]
    · simp [provider, composite, built]
  | ok text =>
    let path := documentPath c r
    let run := command c document.name path (artifacts r)
    cases written : w.tree.writeText path text with
    | error e =>
      refine ⟨_, [], w, ?_, ?_, .unwritten rfl written⟩
      · simp [provider, composite, built, path, written]
      · simp [provider, composite, built, path, World.watch, written]
    | ok tree =>
      rcases ended : o.run run tree w.outside with ⟨result, after, outside⟩
      let log := ["wrote recipe document " ++ path, "running " ++ run.text]
      refine ⟨outcomeOf r document.recipeList.length run log result, [(run, tree)],
        ⟨after, outside⟩, ?_, ?_, ?_⟩
      · simp [provider, composite, built, path, written, run, log, ended]
      · simp [provider, composite, built, path, World.watch, written, Outside.watched, run, log,
          ended]
      · exact .ran rfl (writes_of_writeText written) ended success_outcomeOf details_outcomeOf

/-- **A recipe run passes the recipes on and says what came of them.** For every rule, context and
build tool: without any recipe, the run fails at once and nothing is written or started. Otherwise
there is one document, which `Holds` all recipes and all preconditions of the rule's instructions in
order, and one list of artifacts, as they come up first; and, in a dry run or not, the run takes its
`Course` with this document and with a process that differs in its goal only. Every rule of a
catalog has such a document. -/
theorem execute_course (o : Outside σ) (c : Context) (r : Rule) :
    ((∀ i ∈ r.instructions.openRewrite, i.recipeList = []) → ∀ (w : World σ) started,
      (provider o.watched).execute c r (w.watch started) =
        (Outcome.failed ("no OpenRewrite recipes defined for rule " ++ r.id) [],
          w.watch started)) ∧
    ((∃ i ∈ r.instructions.openRewrite, i.recipeList ≠ []) → ∃ built artifacts,
      (∀ text, built = .ok text → Holds c r text) ∧
      (Yaml.tagsApart (valueOf c r) = true → ∃ text, built = .ok text) ∧
      (∀ catalog origin rules, Catalog.parse catalog origin = .ok rules → r ∈ rules →
        ∃ text, built = .ok text) ∧
      FirstOccurrences (r.instructions.openRewrite.flatMap (·.gav)) artifacts ∧
      ∀ (dry : Bool) (w : World σ) started,
        let path := Files.join c.projectRoot ("rewrite-" ++ toString r.order ++ ".yml")
        let goal := if dry then "dryRun" else "run"
        ∃ outcome new w',
          (provider o).execute { c with dryRun := dry } r w = (outcome, w') ∧
          (provider o.watched).execute { c with dryRun := dry } r (w.watch started) =
            (outcome, w'.watch (started ++ new)) ∧
          Course o built path
            (processOf c goal (optionsOf c (c.recipeName ++ "." ++ r.id) path artifacts))
            w outcome new w') := by
  constructor
  · intro noRecipes w started
    simp [provider, compositeOf?_of_empty noRecipes]
  · intro recipe
    obtain ⟨document, composite, typed, name, recipes, preconditions, value⟩ :=
      compositeOf?_of_recipe (c := c) recipe
    refine ⟨document.document, artifacts r,
      fun text => holds_of_document typed name recipes preconditions value,
      fun apart => ⟨_, if_pos (value ▸ apart)⟩,
      fun _ _ _ parsed member => ⟨_, document_of_parse parsed member recipes preconditions⟩,
      firstOccurrences_distinct _, fun dry w started => ?_⟩
    have course := course_of_composite (o := o) (c := { c with dryRun := dry }) (w := w)
      composite started
    rw [command_eq dry, name] at course
    exact course

/-- A build tool that prints a line and is stopped. -/
def slowTool : Outside Unit where
  run _ t s := (.error (.timeout ["[INFO] one"]), t, s)
  chat _ t s := (.error .stalled, t, s)
  console := false

def slowContext : Context where
  projectRoot := "/p"
  dryRun := false
  provider := .openRewrite
  pluginVersion := "6.0"
  recipeName := "dev.sample"
  mavenCommand := "mvn"
  timeoutMillis := 1000
  maxToolRounds := 1

/-- Two instructions, with an artifact in common. -/
def twoSteps : Rule where
  id := "r"
  order := 7
  condition := "java.class is (name=A)"
  instructions := { openRewrite :=
    [⟨"", "", ["g:a:1", "g:b:1"], [], [.str "First"]⟩,
      ⟨"Both", "", ["g:a:1"], [.str "Found"],
        [.record [("Second", .record [("old", .str "a: #b"), ("deep", .bool true)])]]⟩] }

/-- The document of both instructions. -/
def bothSteps : Composite where
  name := "dev.sample.r"
  displayName := "Both"
  description := ""
  preconditions := [.str "Found"]
  recipeList :=
    [.str "First", .record [("Second", .record [("old", .str "a: #b"), ("deep", .bool true)])]]

def bothStepsText : String :=
  "type: specs.openrewrite.org/v1beta/recipe\nname: dev.sample.r\ndisplayName: Both\n" ++
    "description: ''\npreconditions:\n- Found\nrecipeList:\n- First\n" ++
    "- Second:\n    old: 'a: #b'\n    deep: true\n"

theorem write_twoSteps : Yaml.write (valueOf slowContext twoSteps) = bothStepsText := by
  decide +kernel

/-- A reader finds the document in the text. -/
theorem ofYaml_bothStepsText : Composite.ofYaml bothStepsText = .ok bothSteps := by
  have value : bothSteps.toValue = valueOf slowContext twoSteps := by decide
  have read : Yaml.read? (Yaml.write bothSteps.toValue) = some bothSteps.toValue := by
    unfold Yaml.read? Yaml.write
    rw [String.toList_ofList]
    decide +kernel
  rw [← write_twoSteps, ← value]
  exact bothSteps.ofYaml_toYaml rfl read

def emptyProject : World Unit := ⟨{ entries := [(["p"], .dir)] }, ()⟩

theorem emptyProject_free : emptyProject.tree.get? ["p", "rewrite-7.yml"] = none := by decide

theorem emptyProject_locate :
    emptyProject.tree.locate "/p/rewrite-7.yml" = .ok ["p", "rewrite-7.yml"] := by
  have proper : emptyProject.tree.Proper := .of_entries (by decide) (by decide) (by decide)
  exact Tree.resolve_of_spells (by decide +kernel) proper.sound (by simp) rfl
    fun _ link => Option.some_ne_none _ (link.symm.trans emptyProject_free)

/-- A process that is stopped keeps the line that it printed. It was started on a file with both
recipes, of which the second has options, and with the precondition. -/
theorem execute_course_sample :
    (∃ i ∈ twoSteps.instructions.openRewrite, i.recipeList ≠ []) ∧
    Composite.ofYaml bothStepsText = .ok bothSteps ∧
    ∃ (outcome : Outcome) (w' : World Unit) (tree : Tree) (executable : Bool),
      let run := processOf slowContext "dryRun"
        ["-Drewrite.activeRecipes=dev.sample.r",
          "-Drewrite.recipeArtifactCoordinates=g:a:1,g:b:1",
          "-Drewrite.configLocation=/p/rewrite-7.yml",
          "-DreportOutputDirectory=/p/target/rewrite/rewrite-7"]
      (provider slowTool.watched).execute { slowContext with dryRun := true } twoSteps
        (emptyProject.watch []) = (outcome, w'.watch [(run, tree)]) ∧
      tree.get? ["p", "rewrite-7.yml"] = some (.file (Text.toBytes bothStepsText) executable) ∧
      outcome.success = false ∧
      outcome.details = ["wrote recipe document /p/rewrite-7.yml", "running " ++ run.text,
        "[INFO] one"] := by
  have filled : ∃ i ∈ twoSteps.instructions.openRewrite, i.recipeList ≠ [] :=
    ⟨_, List.mem_cons_self .., by simp⟩
  have named :
      Files.join slowContext.projectRoot ("rewrite-" ++ toString twoSteps.order ++ ".yml") =
        "/p/rewrite-7.yml" := by decide
  obtain ⟨built, artifacts, holds, builds, -, occurrences, runs⟩ :=
    (execute_course slowTool slowContext twoSteps).2 filled
  obtain rfl : artifacts = ["g:a:1", "g:b:1"] :=
    occurrences.unique ⟨by simp [twoSteps]; grind, by decide⟩
  obtain ⟨outcome, new, w', -, watched, course⟩ := runs true emptyProject []
  rw [named] at course
  cases course with
  | unbuilt failed =>
    obtain ⟨text, done⟩ := builds (by decide)
    cases failed.symm.trans done
  | unwritten done failed =>
    simp [Tree.writeText, Tree.writeBytes, emptyProject_locate, emptyProject_free, bind,
      Except.bind] at failed
  | ran done writes ended success details =>
    obtain ⟨rfl, -⟩ := Prod.mk.inj ended
    obtain ⟨place, executable, found, here, -⟩ := writes
    obtain rfl := Except.ok.inj (emptyProject_locate.symm.trans found)
    rw [(holds _ done).written, write_twoSteps] at here
    refine ⟨filled, ofYaml_bothStepsText, outcome, _, _, executable, watched, here,
      Bool.eq_false_iff.mpr fun succeeded => ?_, details⟩
    obtain ⟨lines, other⟩ := success.mp succeeded
    cases other

end RecipeRun

end Uplift.Migration
