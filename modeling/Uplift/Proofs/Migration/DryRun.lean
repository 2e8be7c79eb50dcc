import Uplift.Migration.Registry
import Uplift.Proofs.Migration.Conversation
import Uplift.Proofs.Migration.RecipeRun

/-!
# Dry runs

Only recipe runs look at the flag of a dry run (`execute_flag`): they start the build tool with the
goal that reports (`isDryRun_command`), and change no file but their own document
(`RecipeRun.execute_get?`). Assistance is given the same tools as ever, so that in a dry run a file
changes exactly if the tool calls of the assistant change it (`execute_dryRun`).
-/

namespace Uplift.Migration

open Uplift.Files

variable {σ : Type} {o : Outside σ} {c : Context} {kind : ProviderKind} {rule : Rule}
  {w : World σ} {p : Place}

/-! ## Recipe runs -/

namespace RecipeRun

/-- The command starts the plugin of the build tool with the goal that only reports. -/
def IsDryRun (run : Command) : Prop :=
  ∃ version, run.args[1]? = some (plugin ++ ":" ++ version ++ ":" ++ "dryRun")

theorem isDryRun_command (dry : c.dryRun = true) (name path : String) (artifacts : List String) :
    IsDryRun (command c name path artifacts) :=
  ⟨c.pluginVersion, by simp [command, dry]⟩

/-- A recipe run changes no file but its document, if the build tool changes none. -/
theorem execute_get? (dry : c.dryRun = true)
    (keeps : ∀ run tree outside, IsDryRun run → (o.run run tree outside).2.1 = tree)
    (elsewhere : w.tree.locate (documentPath c rule) ≠ .ok p) :
    ((provider o).execute c rule w).2.tree.get? p = w.tree.get? p := by
  cases composite : compositeOf? rule c.recipeName with
  | none => simp [provider, composite]
  | some document =>
    obtain ⟨outcome, new, w', ran, -, course⟩ := course_of_composite (o := o) (w := w) composite []
    rw [ran]
    cases course with
    | unbuilt | unwritten => rfl
    | @ran text tree after result outside _ done writes ended =>
      obtain ⟨q, x, located, -, others⟩ := writes
      have kept := keeps _ tree w.outside
        (isDryRun_command dry document.name (documentPath c rule) (artifacts rule))
      rw [ended] at kept
      obtain rfl := kept
      exact others p fun same => elsewhere (same ▸ located)

end RecipeRun

/-! ## Assistance -/

namespace Assistance

/-- The calls that the tasks of a rule carry out. -/
def callsFor (o : Outside σ) (c : Context) (rule : Rule) (w : World σ) : List ToolUse :=
  usesOf o c { tools := { root := c.projectRoot } } w (tasksOf rule)

/-- Assistance leaves the files as the calls of the assistant do. -/
theorem execute_tree (keeps : KeepsFiles o) (console : o.console = true) :
    ((provider o).execute c rule w).2.tree =
      (({ root := c.projectRoot } : FileTools).performAll w.tree (callsFor o c rule w)).2.2 := by
  have ran := congrArg Prod.snd
    (runTasks_tools (c := c) keeps (tasksOf rule) { tools := { root := c.projectRoot } } w)
  rw [callsFor, ← ran]
  by_cases noTasks : (tasksOf rule).isEmpty
  · rw [List.isEmpty_iff.mp noTasks]
    simp [provider, List.isEmpty_iff.mp noTasks, runTasks]
  · simp only [provider, noTasks, console, Bool.not_true, Bool.false_eq_true, if_false]
    rcases runTasks o c { tools := { root := c.projectRoot } } w (tasksOf rule) with
      ⟨⟨e⟩ | ⟨⟩, p, w'⟩ <;> rfl

/-- Without anybody to watch, assistance leaves everything alone. -/
theorem execute_unwatched (unwatched : o.console = false) :
    ((provider o).execute c rule w).2 = w := by
  simp only [provider, unwatched, Bool.not_false, if_true]
  split <;> rfl

/-- A conversation does not look at the flag of a dry run. -/
theorem converse_flag (dry : Bool) (left : Nat) (d : Talk) (w : World σ) :
    converse o { c with dryRun := dry } left d w = converse o c left d w := by
  induction left generalizing d w with
  | zero =>
    rw [converse, converse]
    rfl
  | succ left ih =>
    rw [converse, converse]
    simp only [ih]
    rfl

theorem runTasks_flag (dry : Bool) (tasks : List (String × String)) (p : Progress) (w : World σ) :
    runTasks o { c with dryRun := dry } p w tasks = runTasks o c p w tasks := by
  induction tasks generalizing p w with
  | nil => rfl
  | cons entry rest ih =>
    obtain ⟨prompt, task⟩ := entry
    simp only [runTasks, converse_flag, ih]

theorem execute_flag (dry : Bool) :
    (provider o).execute { c with dryRun := dry } rule w = (provider o).execute c rule w := by
  simp only [provider, runTasks_flag]

end Assistance

/-! ## Registries -/

namespace Registry

/-- The registry has built-in providers only. -/
def BuiltIn (o : Outside σ) (r : Registry σ) : Prop :=
  ∀ q ∈ r.providers, q = RecipeRun.provider o ∨ q = Checklist.provider ∨ q = Assistance.provider o

variable {r : Registry σ}

theorem BuiltIn.insert (builtIn : r.BuiltIn o) {q : Provider σ}
    (one : q = RecipeRun.provider o ∨ q = Checklist.provider ∨ q = Assistance.provider o) :
    (r.insert q).BuiltIn o := by
  intro q' member
  rcases List.mem_append.mp member with old | new
  · exact builtIn q' (List.mem_of_mem_filter old)
  · rwa [List.mem_singleton.mp new]

theorem builtIn_standard (o : Outside σ) (assistant : Bool) : (standard o assistant).BuiltIn o := by
  have empty : ({} : Registry σ).BuiltIn o := fun q member => by cases member
  have two := (empty.insert (.inl rfl)).insert (.inr (.inl rfl))
  cases assistant with
  | false => exact two
  | true => exact two.insert (.inr (.inr rfl))

/-- The provider of each kind is the built-in one. -/
theorem BuiltIn.get?_eq (builtIn : r.BuiltIn o) {q : Provider σ} (found : r.get? kind = some q) :
    (kind = .openRewrite ∧ q = RecipeRun.provider o) ∨ (kind = .manual ∧ q = Checklist.provider) ∨
      (kind = .ai ∧ q = Assistance.provider o) := by
  have same : q.kind = kind := by simpa using List.find?_some found
  rcases builtIn q (List.mem_of_find?_eq_some found) with rfl | rfl | rfl
  · exact .inl ⟨same.symm, rfl⟩
  · exact .inr (.inl ⟨same.symm, rfl⟩)
  · exact .inr (.inr ⟨same.symm, rfl⟩)

/-- Only recipe runs look at the flag of a dry run. -/
theorem execute_flag (builtIn : r.BuiltIn o) (other : kind ≠ .openRewrite) (dry : Bool) :
    r.execute { c with dryRun := dry } kind rule w = r.execute c kind rule w := by
  cases found : r.get? kind with
  | none => simp [execute, found]
  | some q =>
    rcases builtIn.get?_eq found with ⟨same, -⟩ | ⟨-, rfl⟩ | ⟨-, rfl⟩
    · exact absurd same other
    · simp only [execute, found, Checklist.provider]
    · simp only [execute, found, Assistance.execute_flag]

end Registry

/-- The programs outside change no files by themselves: the assistant, and the build tool when it is
only to report. -/
structure Outside.Harmless (o : Outside σ) : Prop where
  run : ∀ run tree outside, RecipeRun.IsDryRun run → (o.run run tree outside).2.1 = tree
  chat : Assistance.KeepsFiles o

/-- In a dry run, something other than the document of a recipe run changes if and only if there is
an assistant whose tool calls change it. -/
theorem Registry.execute_dryRun {r : Registry σ} (builtIn : r.BuiltIn o) (harmless : o.Harmless)
    (dry : c.dryRun = true)
    (elsewhere : kind = .openRewrite → w.tree.locate (RecipeRun.documentPath c rule) ≠ .ok p) :
    (r.execute c kind rule w).2.tree.get? p ≠ w.tree.get? p ↔
      kind = .ai ∧ (r.get? .ai).isSome ∧ o.console = true ∧
        (({ root := c.projectRoot } : FileTools).performAll w.tree
          (Assistance.callsFor o c rule w)).2.2.get? p ≠ w.tree.get? p := by
  cases found : r.get? kind with
  | none =>
    have unchanged : (r.execute c kind rule w).2 = w := by simp [execute, found]
    rw [unchanged]
    refine ⟨fun changed => absurd rfl changed, ?_⟩
    rintro ⟨rfl, registered, -⟩
    simp [found] at registered
  | some q =>
    have executed : r.execute c kind rule w = q.execute c rule w := by simp [execute, found]
    rw [executed]
    rcases builtIn.get?_eq found with ⟨rfl, rfl⟩ | ⟨rfl, rfl⟩ | ⟨rfl, rfl⟩
    · have kept := RecipeRun.execute_get? dry harmless.run (elsewhere rfl)
      simp [kept]
    · simp [Checklist.provider]
    · by_cases console : o.console = true
      · rw [Assistance.execute_tree harmless.chat console]
        simp [found, console]
      · rw [Assistance.execute_unwatched (Bool.eq_false_iff.mpr console)]
        simp [console]

/-- A dry run. -/
def dryContext : Context where
  projectRoot := "/p"
  dryRun := true
  provider := .ai
  pluginVersion := "6.20.0"
  recipeName := "org.example"
  mavenCommand := "mvn"
  timeoutMillis := 1000
  maxToolRounds := 3

/-- A rule with one task for the assistant. -/
def greetingRule : Rule where
  id := "r1"
  condition := "java.class is (name='A')"
  instructions := { ai := [⟨"", ["greet"]⟩] }

/-- The assistant gives replies that are made up before; the other programs do not start. -/
def scripted : Outside (List Reply) where
  run _ t replies := (.error (.spawn "not found"), t, replies)
  chat _ t replies :=
    match replies with
    | [] => (.error .stalled, t, [])
    | reply :: rest => (.ok reply, t, rest)
  console := true

theorem harmless_scripted : scripted.Harmless where
  run _ _ _ _ := rfl
  chat _ _ replies := by cases replies <;> rfl

/-- The assistant reads the file `a`, and then writes it. -/
def greeting : World (List Reply) where
  tree := FileTools.sampleTree
  outside :=
    [.toolCall "read_file" (.record [("path", .str "a")]),
      .toolCall "write_file" (.record [("path", .str "a"), ("content", .str "yes")]),
      .final "done"]

theorem callsFor_greeting : Assistance.callsFor scripted dryContext greetingRule greeting =
    [.call "read_file" (.record [("path", .str "a")]),
      .call "write_file" (.record [("path", .str "a"), ("content", .str "yes")])] := by
  simp only [Assistance.callsFor, Assistance.tasksOf, greetingRule, Assistance.usesOf,
    List.flatMap_cons, List.flatMap_nil, List.map_cons, List.map_nil, List.append_nil]
  -- There are no more tasks, however the conversation ends.
  split <;> simp [Assistance.callsOf, dryContext, scripted, greeting]

theorem sampleTree_write : FileTools.sampleTree.writeTextIn (parent? "/p/a") "/p/a" "yes" =
    (.ok (), FileTools.sampleTree.put ["p", "a"] (.file (Text.toBytes "yes") false)) := by
  have above : parent? "/p/a" = some "/p" := by decide
  have split : segments "/p" = ["", "p"] := by decide
  have splitFile : segments "/p/a" = ["", "p", "a"] := by decide
  have size : "/p".utf8ByteSize = 2 := by decide
  have sizeFile : "/p/a".utf8ByteSize = 4 := by decide
  have size₁ : "p".utf8ByteSize = 1 := by decide
  have size₂ : "a".utf8ByteSize = 1 := by decide
  have located : FileTools.sampleTree.locate "/p/a" = .ok ["p", "a"] := by
    simp [Tree.locate, Tree.resolve, splitFile, sizeFile, size₁, size₂, isAbsolute, Tree.walk,
      FileTools.sampleTree_get?, Tree.maxPath, Tree.maxName]
  have locatedDir : FileTools.sampleTree.locateLink "/p" = .ok ["p"] := by
    simp [Tree.locateLink, Tree.resolve, split, size, size₁, isAbsolute, Tree.walk,
      FileTools.sampleTree_get?, Tree.maxPath, Tree.maxName]
  have dir : FileTools.sampleTree.get? ["p"] = some .dir := by decide
  have file : FileTools.sampleTree.get? ["p", "a"] = some (.file [104, 105] false) := by decide
  have ensured : FileTools.sampleTree.ensureDirs "/p" = (.ok (), FileTools.sampleTree) := by
    simp [Tree.ensureDirs, Tree.ensureDirs.go, Tree.makeDir, locatedDir, dir, Tree.isDir,
      Tree.find?, FileTools.sampleTree_plain.located, bind, Except.bind]
  simp [Tree.writeTextIn, above, ensured, Tree.writeTextIn.finish, Tree.writeText,
    Tree.writeBytes, located, file, bind, Except.bind]

theorem greeting_written :
    (({ root := "/p" } : FileTools).performAll FileTools.sampleTree
      [.call "read_file" (.record [("path", .str "a")]),
        .call "write_file" (.record [("path", .str "a"), ("content", .str "yes")])]).2.2 =
      FileTools.sampleTree.put ["p", "a"] (.file (Text.toBytes "yes") false) := by
  have resolved : FileTools.resolve "a" = .ok ["a"] := by decide
  have path : joinNames "/p" ["a"] = "/p/a" := by decide
  have reads : FileTools.useOf "read_file" (.record [("path", .str "a")]) = .ok (.read "a") := rfl
  have writes : FileTools.useOf "write_file"
      (.record [("path", .str "a"), ("content", .str "yes")]) = .ok (.write "a" "yes") := rfl
  simp [FileTools.performAll, FileTools.perform, FileTools.call, reads, writes, FileTools.read,
    FileTools.write, resolved, FileTools.pathOf, path, FileTools.sampleTree_textOf,
    sampleTree_write]

/-- The file `a` is written in a dry run. -/
theorem execute_dryRun_sample : dryContext.dryRun = true ∧
    (Registry.standard scripted true).BuiltIn scripted ∧ scripted.Harmless ∧
    ((Registry.standard scripted true).execute dryContext .ai greetingRule greeting).2.tree.get?
      ["p", "a"] ≠ greeting.tree.get? ["p", "a"] := by
  have builtIn := Registry.builtIn_standard scripted true
  refine ⟨rfl, builtIn, harmless_scripted, ?_⟩
  refine (Registry.execute_dryRun builtIn harmless_scripted rfl (by simp)).mpr ⟨rfl, ?_, rfl, ?_⟩
  · rfl
  · rw [callsFor_greeting]
    simp only [dryContext, greeting]
    rw [greeting_written, Tree.get?_put _ _ _ (by simp)]
    decide

end Uplift.Migration
