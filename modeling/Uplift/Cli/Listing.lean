import Uplift.Report
/-! # Listings

What commands print: the rules of a catalog, the summary of a scan, and the outcomes of a
transformation.
-/

namespace Uplift.Cli

/-- A text with blanks before it, up to a width. -/
def padStart (width : Nat) (s : String) : String :=
  String.ofList (List.replicate (width - s.length) ' ') ++ s

/-- A text with blanks after it, up to a width. -/
def padEnd (width : Nat) (s : String) : String :=
  s ++ String.ofList (List.replicate (width - s.length) ' ')

/-- Lines, each with its end. -/
def unlines (ls : List String) : String := String.join (ls.map (· ++ "\n"))

/-- The lines about a rule. -/
def ruleLines (r : Rule) : List String :=
  [padStart 5 (toString r.order) ++ "  " ++ padEnd 40 r.id ++ " " ++ padEnd 10 r.category ++
      " effort " ++ toString r.effort,
    "       when " ++ r.condition] ++
  (match r.precondition with
    | some p => ["       if   " ++ p.name ++ " " ++ p.pattern]
    | none => [])

/-- The listing of rules. -/
def ruleListing (rules : List Rule) : String :=
  unlines (rules.flatMap ruleLines ++ ["", toString rules.length ++ " rule(s)"])

/-- What became of a rule in a scan. -/
def taskStatus (t : Task) : String :=
  if t.precondition = .notSatisfied then "skipped (precondition)"
  else if t.isMatched then toString t.found.length ++ " match(es)"
  else "no match"

/-- The summary of a scan of some rules. -/
def scanSummary (r : Report) (selected : Nat) : String :=
  unlines (["", "Scan Summary", "============", ""] ++
    (r.tasks.map fun (_, t) => "  " ++ padEnd 40 t.rule.id ++ " " ++ taskStatus t) ++
    ["", "Rules selected:  " ++ toString selected,
      "Rules evaluated: " ++ toString r.tasks.length,
      "Rules matched:   " ++ toString r.matched.length])

/-- The lines about an outcome. -/
def outcomeLines (rule : Rule) (o : Outcome) : List String :=
  let mark := if o.success then "ok" else "FAILED"
  ("[" ++ mark ++ "] " ++ rule.id ++ " - " ++ o.message) ::
    (match o.error with
      | some e => ["       " ++ e]
      | none => [])

/-- The outcomes of a transformation. -/
def outcomeListing (outcomes : List (Rule × Outcome)) : String :=
  unlines (outcomes.flatMap fun (r, o) => outcomeLines r o)

/-- How the command line is used. -/
def usage : String :=
  unlines ["Rule-driven analysis and migration of Java projects.", "",
    "Usage: mtool [OPTIONS] <COMMAND>", "", "Commands:",
    "  scan       Evaluate the rules against the project and report matches",
    "  transform  Evaluate the rules and apply the matched rules' instructions",
    "  rules      List the rules of the catalog",
    "  help       Print this message"]

end Uplift.Cli
