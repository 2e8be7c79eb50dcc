import Uplift.Cli.Run
import Uplift.Proofs.Catalog
import Uplift.Proofs.Scan.Batch
import Uplift.Proofs.Text.Bytes
import Uplift.Proofs.Transform

/-!
# The transform command

A catalog holds no two rules of one id, so neither does a selection of it. A transformation that
gets as far as its scans carries out every rule that is due once, and it fails if an outcome is
without success or its report cannot be written, and only then (`Cli.runTransform_completed`).
-/

namespace Uplift

namespace Scan.Service

variable {σ : Type}

/-- There is one outcome for each rule, in order. -/
theorem scanRules_ids (s : Service σ) (rules : List Rule) (w : World σ) :
    (s.scanRules rules w).1.map (·.1) = rules.map (·.id) := by
  induction rules generalizing w with
  | nil => rfl
  | cons r rules ih => rw [scanRules_cons, List.map_cons, List.map_cons, ih]

end Scan.Service

namespace Cli

open Transform

/-- No two rules that are selected have the same id. -/
theorem distinct_of_loadSelection {i : Invocation} {s : Selection} {t : Files.Tree}
    {rules : List Rule} (loaded : loadSelection i s t = .ok rules) :
    (rules.map (·.id)).Nodup := by
  unfold loadSelection loadRules at loaded
  split at loaded
  · split at loaded
    · next all found =>
      rw [← Except.ok.inj loaded]
      have kept : (select s all).Sublist all := List.filter_sublist
      exact (kept.map _).nodup (Catalog.distinct_of_load found)
    · cases loaded
  · cases loaded

/-- What a transformation sets out with: its settings, the selected rules, and the service that
scans with the server it may use. -/
structure Prepared (i : Invocation) (o : ScanOptions) (provider : Option ProviderKind)
    (dryRun : Bool) (t : Files.Tree) (c : Config) (rules : List Rule)
    (service : Scan.Service (Option Rpc.Client)) (server : Option Rpc.Client) : Prop where
  configured : ∃ file, loadConfig i t = .ok file ∧
    c = withProvider (withScanner file o.scanner) provider dryRun
  selected : loadSelection i o.selection t = .ok rules
  created : createService c i.path t = .ok (service, server)

/-- What the providers of a project are told. -/
def migrationContext (i : Invocation) (c : Config) : Migration.Context :=
  { Migration.Context.ofConfig i.path c with verbose := i.verbose }

/-- The way in which the providers of a project carry out a task. -/
def carrier (i : Invocation) (c : Config) (task : Task) (w : Migration.World Unit) :
    Outcome × Migration.World Unit :=
  (providers c i.path).execute (migrationContext i c) task.provider task.rule w

/-- The scans of some rules, and the files that they leave. -/
def scansOf (s : Scan.Service (Option Rpc.Client)) (server : Option Rpc.Client) (rules : List Rule)
    (t : Files.Tree) : List (Rule × Except ScanError RuleScan) × Files.Tree :=
  let (outcomes, w) := s.scanRules rules ⟨t, {}, server⟩
  (rules.zip (outcomes.map (·.2)), w.tree)

theorem scansOf_rules (s : Scan.Service (Option Rpc.Client)) (server : Option Rpc.Client)
    (rules : List Rule) (t : Files.Tree) : (scansOf s server rules t).1.map (·.1) = rules := by
  have ids := s.scanRules_ids rules ⟨t, {}, server⟩
  have sameLength := congrArg List.length ids
  rw [List.length_map, List.length_map] at sameLength
  exact List.map_fst_zip (by rw [List.length_map, sameLength])

variable {i : Invocation} {o : ScanOptions} {provider : Option ProviderKind} {dryRun : Bool}
  {t : Files.Tree} {c : Config} {rules : List Rule}
  {service : Scan.Service (Option Rpc.Client)} {server : Option Rpc.Client}

/-- A transformation that is prepared scans, carries out, and writes its report. -/
theorem runTransform_eq (prepared : Prepared i o provider dryRun t c rules service server)
    (now : Instant) :
    runTransform i o provider dryRun now t =
      let scans := scansOf service server rules t
      let empty : Report := ⟨"mtool analysis", service.root, now, []⟩
      let (outcomes, report, w) := carryOut (carrier i c) rules
        (scanned (migrationContext i c).provider empty scans.1) ⟨scans.2, ()⟩
      let output := outcomeListing outcomes
      match writeReport report o.output w.tree with
      | .error f => { output, failure := some f, tree := w.tree }
      | .ok tree =>
        let failures := report.failureCount
        { output, tree, failure := if failures = 0 then none else some (.transformations failures) }
    := by
  obtain ⟨file, loaded, rfl⟩ := prepared.configured
  unfold runTransform
  simp only [loaded, prepared.selected, prepared.created, bind, Except.bind]
  rfl

/-- **A transformation carries out each rule that is due once, and loses no task.**

* For any scans of rules with different ids and any way to carry a task out, the loop over the rules
  does what `Transform.Completed` says, and its report keeps of the scans what `Transform.Kept`
  says: what was found and how the preconditions came out.
* The command does so with the scans of the selected rules, whose ids are different, and the
  providers of the project. It prints the outcomes; if its report can be written, it fails exactly
  if an outcome is without success. -/
theorem runTransform_completed :
    (∀ {σ : Type} (execute : Task → σ → Outcome × σ) (provider : ProviderKind) (before : Report)
        (scans : List (Rule × Except ScanError RuleScan)) (w : σ),
      before.tasks = [] → (scans.map (·.1.id)).Nodup →
      ∃ calls after w', carryOut execute (scans.map (·.1)) (scanned provider before scans) w =
          (calls.map fun call => (call.1.rule, call.2), after, w') ∧
        Completed execute before (tasksOf provider scans) w calls after w' ∧
        Kept scans calls after) ∧
    (∀ {i : Invocation} {o : ScanOptions} {provider : Option ProviderKind} {dryRun : Bool}
        {t : Files.Tree} {c : Config} {rules : List Rule}
        {service : Scan.Service (Option Rpc.Client)} {server : Option Rpc.Client} (now : Instant),
      Prepared i o provider dryRun t c rules service server →
      (rules.map (·.id)).Nodup ∧ (scansOf service server rules t).1.map (·.1) = rules ∧
      ∃ calls after w',
        Completed (carrier i c) ⟨"mtool analysis", service.root, now, []⟩
          (tasksOf c.migration.provider (scansOf service server rules t).1)
          ⟨(scansOf service server rules t).2, ()⟩ calls after w' ∧
        Kept (scansOf service server rules t).1 calls after ∧
        (runTransform i o provider dryRun now t).output =
          outcomeListing (calls.map fun call => (call.1.rule, call.2)) ∧
        (∀ f, writeReport after o.output w'.tree = .error f →
          (runTransform i o provider dryRun now t).failure = some f) ∧
        ∀ tree, writeReport after o.output w'.tree = .ok tree →
          (runTransform i o provider dryRun now t).tree = tree ∧
          ((runTransform i o provider dryRun now t).failure ≠ none ↔
            ∃ call ∈ calls, call.2.success = false)) := by
  constructor
  · intro σ execute provider before scans w empty distinct
    obtain ⟨calls, after, w', ran, completed⟩ :=
      carryOut_completed before execute provider empty distinct w
    exact ⟨calls, after, w', ran, completed, completed.kept distinct⟩
  intro i o provider dryRun t c rules service server now prepared
  have distinct := distinct_of_loadSelection prepared.selected
  have rulesOf := scansOf_rules service server rules t
  have scansDistinct : ((scansOf service server rules t).1.map (·.1.id)).Nodup := by
    have ids := congrArg (List.map Rule.id) rulesOf
    rw [List.map_map] at ids
    exact ids ▸ distinct
  obtain ⟨calls, after, w', ran, completed⟩ :=
    carryOut_completed ⟨"mtool analysis", service.root, now, []⟩ (carrier i c)
      c.migration.provider rfl scansDistinct ⟨(scansOf service server rules t).2, ()⟩
  rw [rulesOf] at ran
  have run := runTransform_eq prepared now
  simp only [migrationContext, Migration.Context.ofConfig, ran] at run
  refine ⟨distinct, rulesOf, calls, after, w', completed, completed.kept scansDistinct, ?_, ?_, ?_⟩
  · rw [run]
    cases writeReport after o.output w'.tree <;> rfl
  · intro f unwritten
    rw [run, unwritten]
  · intro tree written
    rw [run, written]
    refine ⟨rfl, ?_⟩
    dsimp only
    rw [← completed.failureCount_pos_iff]
    by_cases none : after.failureCount = 0
    · simp [none]
    · simp [none, Nat.pos_of_ne_zero none]

/-! ## A transformation of an empty project -/

open Files

/-- A catalog of one rule. Its condition is no coordinate, so that it matches in any project. -/
def sampleCatalog : String :=
  "- ruleID: r1\n  labels: [konveyor.io/source=x, konveyor.io/target=y]\n" ++
  "  when:\n    condition: pom.dependency is (gavs='lombok')\n"

/-- An empty project, and the catalog beside it. -/
def sampleProject : Files.Tree where
  entries := [(["app"], .dir), (["rules.yaml"], .file (Text.toBytes sampleCatalog) false)]

def sampleRule : Rule where
  id := "r1"
  labels := ["konveyor.io/source=x", "konveyor.io/target=y"]
  condition := "pom.dependency is (gavs='lombok')"

def sampleOptions : ScanOptions := ⟨none, none, none⟩

def sampleInvocation : Invocation :=
  ⟨"app", "rules.yaml", none, false, .transform sampleOptions (some .ai) false⟩

theorem sampleProject_locate {name : String} (atTop : name = "app" ∨ name = "rules.yaml") :
    sampleProject.locate name = .ok [name] := by
  have walked (plain : name ≠ "" ∧ name ≠ "." ∧ name ≠ "..")
      (short : name.utf8ByteSize ≤ Tree.maxName)
      (there : sampleProject.get? [name] = some .dir ∨
        sampleProject.get? [name] = some (.file (Text.toBytes sampleCatalog) false)) :
      sampleProject.walk true Tree.maxLinks [] [name] = .ok [name] := by
    have root : sampleProject.get? [] = some .dir := rfl
    rcases there with here | here <;> simp [Tree.walk, root, plain, short.not_gt, here]
  unfold Tree.locate Tree.resolve
  rcases atTop with rfl | rfl
  · rw [if_neg (by decide), if_neg (by decide), if_neg (by decide)]
    exact walked (by decide) (by decide) (.inl rfl)
  · rw [if_neg (by decide), if_neg (by decide), if_neg (by decide)]
    exact walked (by decide) (by decide) (.inr (by decide))

theorem sampleProject_selected :
    loadSelection sampleInvocation none sampleProject = .ok [sampleRule] := by
  have isDir : sampleProject.isDir "app" = true := by
    rw [Tree.isDir, Tree.find?, sampleProject_locate (.inl rfl)]
    rfl
  have located := sampleProject_locate (.inr rfl)
  have there : sampleProject.get? ["rules.yaml"] =
      some (.file (Text.toBytes sampleCatalog) false) := by
    simp [Tree.get?, sampleProject, List.lookup_cons]
  have noDir : sampleProject.isDir "rules.yaml" = false := by
    simp only [Tree.isDir, Tree.find?, located, there]
  have isFile : sampleProject.isFile "rules.yaml" = true := by
    simp only [Tree.isFile, Tree.find?, located, there]
  have text : sampleProject.readText "rules.yaml" = .ok sampleCatalog := by
    simp only [Tree.readText, Tree.readBytes, located, there, bind, Except.bind,
      Text.ofBytes?_toBytes]
  have parsed : Catalog.parse sampleCatalog "rules.yaml" = .ok [sampleRule] := by decide +kernel
  have read : ["rules.yaml"].mapM (Catalog.loadFile sampleProject) = .ok [[sampleRule]] := by
    refine mapM_eq_ok_iff.mpr (.cons ?_ .nil)
    rw [Catalog.loadFile, text]
    exact parsed
  have finished : Catalog.finish [sampleRule] = .ok [sampleRule] := by
    rw [Catalog.finish, List.mergeSort_singleton]
    rfl
  have loaded : Catalog.load sampleProject "rules.yaml" = .ok [sampleRule] := by
    unfold Catalog.load
    rw [if_neg (by rw [noDir]; exact Bool.false_ne_true), if_pos isFile]
    show (["rules.yaml"].mapM (Catalog.loadFile sampleProject) >>= fun lists =>
      Catalog.finish lists.flatten) = _
    exact bind_eq_ok_iff.mpr ⟨_, read, finished⟩
  show (if sampleProject.isDir "app" then _ else _) = _
  rw [if_pos isDir, loadRules, sampleInvocation, loaded]
  decide +kernel

/-- A file that was found. -/
def sampleFound : Match := ⟨"a.txt", .file, .location ⟨"a.txt", 0, 0, ""⟩⟩

/-- Four rules: one whose scan failed, one that found nothing, and two that are due. -/
def sampleScans : List (Rule × Except ScanError RuleScan) :=
  [({ id := "c", condition := "" }, .error (.spawn "mvn" "not found")),
    ({ id := "b", condition := "" }, .ok ⟨"b", .satisfied, [sampleFound]⟩),
    ({ id := "d", condition := "" }, .ok ⟨"d", .notSatisfied, []⟩),
    ({ id := "a", condition := "" }, .ok ⟨"a", .notDeclared, [sampleFound]⟩)]

/-- Writes down which rule is carried out, and fails for one of them. -/
def sampleExecute (t : Task) (log : List String) : Outcome × List String :=
  (⟨t.rule.id = "a", "", [], none⟩, log ++ [t.rule.id])

theorem runTransform_completed_sample :
    (∃ (calls : List (Task × Outcome)) (after : Report) (log : List String),
      carryOut sampleExecute (sampleScans.map (·.1))
        (scanned .manual ⟨"", "", default, []⟩ sampleScans) [] =
          (calls.map fun call => (call.1.rule, call.2), after, log) ∧
        calls.map (·.1.rule.id) = ["b", "a"] ∧
        after.tasks.map (fun e => (e.1, e.2.found, e.2.precondition, e.2.result.isSome)) =
          [("a", [sampleFound], .notDeclared, true), ("b", [sampleFound], .satisfied, true),
            ("d", [], .notSatisfied, false)] ∧
        Kept sampleScans calls after) ∧
    ∃ c service,
      Prepared sampleInvocation sampleOptions (some .ai) false sampleProject c [sampleRule] service
        none ∧
      ∀ now, (runTransform sampleInvocation sampleOptions (some .ai) false now
        sampleProject).failure ≠ none := by
  obtain ⟨loop, command⟩ := runTransform_completed
  constructor
  · obtain ⟨calls, after, w', ran, completed, kept⟩ :=
      loop sampleExecute .manual ⟨"", "", default, []⟩ sampleScans [] rfl (by decide)
    refine ⟨calls, after, w', ran, ?_, ?_, kept⟩
    · have called := congrArg (List.map (·.rule.id)) completed.called
      rw [List.map_map] at called
      exact called.trans (by decide)
    · have tasks := congrArg (fun run => run.2.1.tasks) ran
      rw [← tasks]
      decide +kernel
  · let c : Config := withProvider (withScanner {} none) (some .ai) false
    let service : Scan.Service (Option Rpc.Client) :=
      ⟨"app", c, .standard scanOutside false, .builtin⟩
    have prepared : Prepared sampleInvocation sampleOptions (some .ai) false sampleProject c
        [sampleRule] service none :=
      ⟨⟨{}, rfl, rfl⟩, sampleProject_selected, rfl⟩
    refine ⟨c, service, prepared, fun now => ?_⟩
    obtain ⟨-, -, calls, after, w', completed, -, -, -, written⟩ := command now prepared
    rw [(written w'.tree rfl).2]
    let due : Task := { rule := sampleRule, provider := .ai, found := [.sentinel "lombok"] }
    have tasks : tasksOf c.migration.provider (scansOf service none [sampleRule] sampleProject).1 =
        [due] := by decide +kernel
    have called := completed.called
    rw [tasks] at called
    have member : due ∈ calls.map (·.1) := by
      rw [called]
      exact List.mem_cons_self
    obtain ⟨call, among, same⟩ := List.mem_map.mp member
    obtain ⟨v, outcome⟩ := completed.executed.outcome call among
    -- Nobody assists, so there is no provider for the task.
    refine ⟨call, among, ?_⟩
    rw [outcome, same]
    rfl

end Cli

end Uplift
