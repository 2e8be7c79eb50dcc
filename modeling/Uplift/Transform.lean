import Uplift.Report
import Uplift.Scan.Service
/-! # Transformations

The scans of the selected rules become the tasks of a report. Then the rules whose scan found
something are carried out in their order, and each task keeps its outcome.

* `scanned` is the report of scans; `carryOut` carries the rules out.
-/

namespace Uplift.Transform

/-- The report with the tasks of the rules whose scan succeeded. -/
def scanned (provider : ProviderKind) (r : Report) :
    List (Rule × Except ScanError RuleScan) → Report
  | [] => r
  | (rule, .ok s) :: rest => scanned provider (r.insert (s.toTask rule provider)) rest
  | (_, .error _) :: rest => scanned provider r rest

variable {σ : Type}

/-- Carries out a rule if its scan found something. -/
def step (execute : Task → σ → Outcome × σ) (rule : Rule) (r : Report) (w : σ) :
    Option Outcome × Report × σ :=
  match r.tasks.lookup rule.id with
  | none => (none, r, w)
  | some t =>
    if t.isMatched then
      let (o, w) := execute t w
      (some o, r.insert { t with result := some o }, w)
    else (none, r, w)

/-- Carries out rules, and gives the outcomes of those that were carried out. -/
def carryOut (execute : Task → σ → Outcome × σ) :
    List Rule → Report → σ → List (Rule × Outcome) × Report × σ
  | [], r, w => ([], r, w)
  | rule :: rest, r, w =>
    let (o, r, w) := step execute rule r w
    let (os, r, w) := carryOut execute rest r w
    (match o with
      | some o => (rule, o) :: os
      | none => os, r, w)

end Uplift.Transform
