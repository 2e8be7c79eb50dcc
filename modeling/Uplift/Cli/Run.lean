import Uplift.Catalog
import Uplift.Cli.Arguments
import Uplift.Cli.Failure
import Uplift.Cli.Listing
import Uplift.Migration.CommandAssistant
import Uplift.Migration.Registry
import Uplift.Rpc.Client
import Uplift.Scan.Standard
import Uplift.Shell.Peer
import Uplift.Transform
/-! # Running commands

A command runs on a file tree, in the directory where relative paths begin. What it prints, the
failure it may end with, and the files that it leaves are its result.

* `run` is the whole program.
-/

namespace Uplift.Cli

/-- What a command comes to. -/
structure Result where
  output : String := ""
  failure : Option Failure := none
  tree : Files.Tree

namespace Result

/-- A command that failed before it printed anything. -/
def failed (t : Files.Tree) (f : Failure) : Result := { failure := some f, tree := t }

end Result

/-- What scans deal with: programs that are run, and a symbol server that was started. -/
def scanOutside : Scan.Outside (Option Rpc.Client) where
  run c t s :=
    let (r, t) := Shell.run c t
    (r, t, s)
  ask command arguments s :=
    match s with
    | none => (.error .noCommand, none)
    | some c =>
      let (r, c) := c.execute command arguments
      (r, some c)

/-- What migrations deal with: programs that are run, and an assistant that is a program. Nobody
watches. -/
def migrationOutside (assistant : List String) (dir : String) : Migration.Outside Unit where
  run c t s :=
    let (r, t) := Shell.run c t
    (r, t, s)
  chat q t s :=
    let (r, t) := Migration.CommandAssistant.ask assistant dir q t
    (r.mapError .failed, t, s)
  console := false

/-- The settings of a command. -/
def loadConfig (i : Invocation) (t : Files.Tree) : Except Failure Config :=
  match i.config with
  | none => .ok {}
  | some path =>
    match Config.load t path with
    | .ok c => .ok c
    | .error e => .error (.config path e)

/-- The rules that name both technologies, and lead from the one to the other if these are given. -/
def select (s : Selection) (rules : List Rule) : List Rule :=
  rules.filter fun r => r.hasTechnologies &&
    match s with
    | some (source, target) => r.leads source target
    | none => true

/-- The selected rules of the catalog. -/
def loadRules (i : Invocation) (s : Selection) (t : Files.Tree) : Except Failure (List Rule) :=
  match Catalog.load t i.rules with
  | .ok rules => .ok (select s rules)
  | .error e => .error (.rules i.rules e)

/-- The selected rules, for a project that must be there. -/
def loadSelection (i : Invocation) (s : Selection) (t : Files.Tree) : Except Failure (List Rule) :=
  if t.isDir i.path then loadRules i s t else .error (.notDirectory i.path)

/-- The number of this process. -/
def processId : Nat := 1

/-- Starts the symbol server, if one is configured. -/
def startServer (c : Config) (root : String) (t : Files.Tree) :
    Except Failure (Option Rpc.Client) :=
  let command := c.scan.symbolServerCommand
  if command.isEmpty then .ok none
  else
    match Rpc.Client.start (Shell.launch t) processId command t root c.scan.symbolServerBundles with
    | .ok client => .ok (some client)
    | .error e => .error (.server e)

/-- The service of a project, and the server it may use. -/
def createService (c : Config) (root : String) (t : Files.Tree) :
    Except Failure (Scan.Service (Option Rpc.Client) × Option Rpc.Client) := do
  let server ← startServer c root t
  match Scan.Service.of root c (.standard scanOutside server.isSome) .builtin with
  | .ok s => .ok (s, server)
  | .error e => .error (.service e)

/-- The report of the scans of some rules, and the files that they leave. -/
def scanReport (s : Scan.Service (Option Rpc.Client)) (server : Option Rpc.Client) (now : Instant)
    (provider : ProviderKind) (rules : List Rule) (t : Files.Tree) : Report × Files.Tree :=
  let (outcomes, w) := s.scanRules rules ⟨t, {}, server⟩
  let empty : Report := ⟨"mtool analysis", s.root, now, []⟩
  (Transform.scanned provider empty (rules.zip (outcomes.map (·.2))), w.tree)

/-- Writes a report where it is wanted. -/
def writeReport (r : Report) (output : Option String) (t : Files.Tree) :
    Except Failure Files.Tree :=
  match output with
  | none => .ok t
  | some path =>
    match r.write t path with
    | .ok t => .ok t
    | .error e => .error (.report path e)

/-- The settings with the scanner that is asked for. -/
def withScanner (c : Config) (scanner : Option ScannerKind) : Config :=
  { c with scan := { c.scan with defaultScanner := scanner.or c.scan.defaultScanner } }

/-- Scans the selected rules. -/
def runScan (i : Invocation) (o : ScanOptions) (now : Instant) (t : Files.Tree) : Result :=
  let prepared := do
    let c ← loadConfig i t
    let c := withScanner c o.scanner
    let rules ← loadSelection i o.selection t
    let (service, server) ← createService c i.path t
    Except.ok (c, rules, service, server)
  match prepared with
  | .error f => .failed t f
  | .ok (c, rules, service, server) =>
    let (report, t) := scanReport service server now c.migration.provider rules t
    let output := scanSummary report rules.length
    match writeReport report o.output t with
    | .ok tree => { output, tree }
    | .error f => { output, failure := some f, tree := t }

/-- The settings with the provider and the caution that are asked for. -/
def withProvider (c : Config) (provider : Option ProviderKind) (dryRun : Bool) : Config :=
  { c with migration := { c.migration with
      provider := provider.getD c.migration.provider, dryRun := c.migration.dryRun || dryRun } }

/-- The providers of a project. -/
def providers (c : Config) (root : String) : Migration.Registry Unit :=
  let assistant := c.migration.assistantCommand
  .standard (migrationOutside assistant root) !assistant.isEmpty

/-- Scans the selected rules, and carries out those that found something. -/
def runTransform (i : Invocation) (o : ScanOptions) (provider : Option ProviderKind) (dryRun : Bool)
    (now : Instant) (t : Files.Tree) : Result :=
  let prepared := do
    let c ← loadConfig i t
    let c := withProvider (withScanner c o.scanner) provider dryRun
    let rules ← loadSelection i o.selection t
    let (service, server) ← createService c i.path t
    Except.ok (c, rules, service, server)
  match prepared with
  | .error f => .failed t f
  | .ok (c, rules, service, server) =>
    let context := { Migration.Context.ofConfig i.path c with verbose := i.verbose }
    let (report, t) := scanReport service server now context.provider rules t
    let execute (task : Task) (w : Migration.World Unit) : Outcome × Migration.World Unit :=
      (providers c i.path).execute context task.provider task.rule w
    let (outcomes, report, w) := Transform.carryOut execute rules report ⟨t, ()⟩
    let output := outcomeListing outcomes
    match writeReport report o.output w.tree with
    | .error f => { output, failure := some f, tree := w.tree }
    | .ok tree =>
      let failures := report.failureCount
      { output, tree, failure := if failures = 0 then none else some (.transformations failures) }

/-- Lists the selected rules. -/
def runRules (i : Invocation) (s : Selection) (t : Files.Tree) : Result :=
  match loadRules i s t with
  | .ok rules => { output := ruleListing rules, tree := t }
  | .error f => .failed t f

/-- Runs a command. -/
def Invocation.run (i : Invocation) (now : Instant) (t : Files.Tree) : Result :=
  match i.action with
  | .scan o => runScan i o now t
  | .transform o provider dryRun => runTransform i o provider dryRun now t
  | .rules s => runRules i s t

/-- How the program ends. -/
structure Exit where
  status : Nat
  output : String := ""
  errors : List String := []
  tree : Files.Tree

/-- The whole program. -/
def run (env : Environment) (args : List String) (now : Instant) (t : Files.Tree) : Exit :=
  match Invocation.parse env args with
  | .error .help => { status := 0, output := usage, tree := t }
  | .error (.version name) => { status := 0, output := name ++ " " ++ version ++ "\n", tree := t }
  | .error .misuse => { status := 2, tree := t }
  | .ok i =>
    let r := i.run now t
    match r.failure with
    | none => { status := 0, output := r.output, tree := r.tree }
    | some f => { status := 1, output := r.output, errors := f.chain, tree := r.tree }

end Uplift.Cli
