import Uplift.Config
import Uplift.Match
import Uplift.Process.Command
import Uplift.Scan.Error
/-! # Scanners

A scanner answers queries about a project. What it may read and change is one value, the world: the
files, the match ids that were drawn, and the state of the programs outside.

* `ScanM` is a computation in a world that may fail; what it changed before it failed stays changed.
* `Scanner` is a kind of back end, with the queries that it can answer.
-/

namespace Uplift

namespace Scan

/-- What scans read and change. -/
structure World (σ : Type) where
  tree : Files.Tree
  ids : MatchIds
  outside : σ

/-- The programs outside: a build tool, which may change files, and a symbol server. -/
structure Outside (σ : Type) where
  run : Command → Files.Tree → σ → Except RunFailure Finished × Files.Tree × σ
  ask : (command : String) → (arguments : List Value) → σ → Except ServerFault Value × σ

end Scan

open Scan

/-- A computation of a scan. -/
abbrev ScanM (σ : Type) := ExceptT ScanError (StateM (World σ))

namespace ScanM

/-- A result that depends on nothing. -/
def ofExcept {σ α : Type} (r : Except ScanError α) : ScanM σ α := fun w => (r, w)

/-- A result that depends on files. -/
def read {σ α : Type} (f : Files.Tree → Except ScanError α) : ScanM σ α := fun w => (f w.tree, w)

/-- Writes a text to a file, in a directory that is made if it is not there. -/
def write {σ : Type} (dir path text : String) : ScanM σ Unit := fun w =>
  match w.tree.writeTextIn (some dir) path text with
  | (.ok (), tree) => (.ok (), { w with tree })
  | (.error (failed, e), tree) => (.error (.write failed e), { w with tree })

/-- A computation, and after it a change of files whatever comes of it. -/
def andThen {σ α : Type} (m : ScanM σ α) (f : Files.Tree → Files.Tree) : ScanM σ α := fun w =>
  let (r, w) := m w
  (r, { w with tree := f w.tree })

/-- Runs a program. -/
def execute {σ : Type} (o : Outside σ) (c : Command) : ScanM σ Finished := fun w =>
  let (r, tree, outside) := o.run c w.tree w.outside
  let w := { w with tree, outside }
  match r with
  | .ok f => (.ok f, w)
  | .error (.spawn cause) => (.error (.spawn c.program cause), w)
  | .error (.timeout lines) => (.error (.timeout c.program c.timeoutSecs lines), w)

/-- Asks the symbol server. -/
def ask {σ : Type} (o : Outside σ) (command : String) (arguments : List Value) : ScanM σ Value :=
  fun w =>
    let (r, outside) := o.ask command arguments w.outside
    let w := { w with outside }
    match r with
    | .ok v => (.ok v, w)
    | .error e => (.error (.server e), w)

end ScanM

namespace Scan

/-- What every scanner is told. -/
structure Context where
  config : Config
  root : String
  rule : String
  routing : RoutingTable
  mappers : MapperTable

namespace Context

/-- The request that a query becomes on a scanner. -/
def request {σ : Type} (c : Context) (scanner : ScannerKind) (q : Query) :
    ScanM σ Request := fun w =>
  match c.routing.resolve q.kind q.symbol with
  | .error f => (.error (.fault f), w)
  | .ok route =>
    match c.mappers.map route.shape scanner q c.rule w.ids with
    | .error f => (.error (.fault f), w)
    | .ok (r, ids) => (.ok r, { w with ids })

end Context

end Scan

/-- A back end for queries. -/
structure Scanner (σ : Type) where
  kind : ScannerKind
  supports : Query → Bool
  scan : Scan.Context → Query → ScanM σ (List Match)

end Uplift
