import Uplift.Scan.Registry
import Uplift.Task
/-! # Scanning rules

A service scans the rules of a catalog against one project. A rule with a precondition is looked at
only if the precondition finds something; a condition on all of its parts stops at the first part
that finds nothing.

* `RuleScan.evaluate` is the evaluation of a rule, for any way of answering queries.
* `Service.scanRules` scans rules one after the other; a rule that fails leaves the others alone.
-/

namespace Uplift

/-- What the scan of a rule found. -/
structure RuleScan where
  rule : String
  precondition : PreconditionStatus
  found : List Match
deriving DecidableEq

namespace RuleScan

/-- The scan found something. -/
def isMatched (s : RuleScan) : Bool := !s.found.isEmpty

/-- The task that a scan leads to. -/
def toTask (s : RuleScan) (r : Rule) (provider : ProviderKind) : Task where
  rule := r
  provider := provider
  found := s.found
  precondition := s.precondition

variable {m : Type → Type} [Monad m]

/-- What all of several queries find, after `sofar`: nothing if one of them finds nothing, and those
after it are not asked. -/
def evalAll (ask : Query → m (List Match)) (sofar : List Match) : List Query → m (List Match)
  | [] => pure sofar
  | q :: rest => do
    let found ← ask q
    if found.isEmpty then pure [] else evalAll ask (sofar ++ found) rest

/-- What any of several queries find. -/
def evalAny (ask : Query → m (List Match)) : List Query → m (List Match)
  | [] => pure []
  | q :: rest => do
    let found ← ask q
    let more ← evalAny ask rest
    pure (found ++ more)

/-- What a condition finds. -/
def evalCondition (ask : Query → m (List Match)) : Condition → m (List Match)
  | .one q => ask q
  | .all qs => evalAll ask [] qs
  | .any qs => evalAny ask qs

/-- Whether a precondition holds: it finds more than sentinels. -/
def holds (found : List Match) : Bool := found.any fun x => !x.isSentinel

/-- What the scan of a rule finds. -/
def evaluate (ask : Query → m (List Match)) (id : String) (precondition : Option Query)
    (condition : Condition) : m RuleScan := do
  match precondition with
  | none => pure ⟨id, .notDeclared, ← evalCondition ask condition⟩
  | some q =>
    let found ← ask q
    if holds found then pure ⟨id, .satisfied, ← evalCondition ask condition⟩
    else pure ⟨id, .notSatisfied, []⟩

end RuleScan

namespace Scan

/-- A project to be scanned, and the means for it. -/
structure Service (σ : Type) where
  root : String
  config : Config
  registry : Registry σ
  mappers : MapperTable

namespace Service

variable {σ : Type}

/-- A service, unless a route has no mapper. -/
def of (root : String) (config : Config) (registry : Registry σ)
    (mappers : MapperTable) : Except ScanError (Service σ) :=
  match mappers.validate config.routes with
  | .ok () => .ok ⟨root, config, registry, mappers⟩
  | .error f => .error (.fault f)

/-- What the scanners are told about a rule. -/
def context (s : Service σ) (rule : String) : Context where
  config := s.config
  root := s.root
  rule := rule
  routing := s.config.routes
  mappers := s.mappers

/-- The matches of a query, from the scanner that is configured, else from that of its route, else
from any that can answer. -/
def scanQuery (s : Service σ) (rule : String) (q : Query) : ScanM σ (List Match) := do
  match s.config.routes.resolve q.kind q.symbol with
  | .error f => ScanM.ofExcept (.error (.fault f))
  | .ok route =>
    let scanner ← ScanM.ofExcept
      (s.registry.resolve q (some (s.config.scan.defaultScanner.getD route.scanner)))
    scanner.scan (s.context rule) q

/-- The scan of a rule. Its condition and then its precondition are read before anything is
asked. -/
def scanRule (s : Service σ) (r : Rule) : ScanM σ RuleScan := do
  match r.query with
  | .error f => ScanM.ofExcept (.error (.fault f))
  | .ok condition =>
    match r.preconditionQuery with
    | .error f => ScanM.ofExcept (.error (.fault f))
    | .ok precondition => RuleScan.evaluate (s.scanQuery r.id) r.id precondition condition

/-- The scans of several rules, in order. -/
def scanRules (s : Service σ) :
    List Rule → StateM (World σ) (List (String × Except ScanError RuleScan))
  | [] => pure []
  | r :: rest => do
    let result ← ExceptT.run (s.scanRule r)
    let more ← s.scanRules rest
    pure ((r.id, result) :: more)

/-- The matches of the rules that found something; of equal ids, the last counts. -/
def groups (outcomes : List (String × Except ScanError RuleScan)) : List (String × List Match) :=
  outcomes.foldl (fun acc (id, result) =>
    match result with
    | .ok scan => if scan.isMatched then acc.filter (·.1 ≠ id) ++ [(id, scan.found)] else acc
    | .error _ => acc) []

end Service

end Scan

end Uplift
