import Uplift.Task
import Uplift.Instant
import Uplift.SetupError
import Uplift.Json.Reader
import Uplift.Json.Printer
/-! # Reports

A report collects the tasks of a run under their rules' ids, in the order of the ids.

* `Report.toJson`, `Report.ofJson`: the text of a report, both ways.
-/

namespace Uplift

/-- The tasks of a run. -/
structure Report where
  title : String
  projectPath : String
  timestamp : Instant
  tasks : List (String × Task) := []
deriving DecidableEq

namespace Report

/-- Puts a task under an id into a list that is sorted by id. -/
def insertTask (id : String) (t : Task) : List (String × Task) → List (String × Task)
  | [] => [(id, t)]
  | (k, u) :: rest =>
    if id = k then (id, t) :: rest
    else if id < k then (id, t) :: (k, u) :: rest
    else (k, u) :: insertTask id t rest

/-- The report with a task more, in place of one for the same rule. -/
def insert (r : Report) (t : Task) : Report := { r with tasks := insertTask t.rule.id t r.tasks }

/-- The tasks whose scan found something. -/
def matched (r : Report) : List Task := (r.tasks.map (·.2)).filter Task.isMatched

/-- The task was carried out without success. -/
def hasFailed (t : Task) : Bool := (t.result.map fun o => !o.success).getD false

/-- How many tasks failed. -/
def failureCount (r : Report) : Nat := (r.tasks.filter fun (_, t) => hasFailed t).length

/-- A report as a document value. -/
def encode (r : Report) : Value :=
  .record [("title", .str r.title), ("projectPath", .str r.projectPath),
    ("timestamp", .str r.timestamp.text),
    ("tasks", .record (r.tasks.map fun (id, t) => (id, t.encode)))]

/-- The text of a report; there is none if a recipe holds a key without a JSON form. -/
def toJson (r : Report) : Except SetupError String :=
  if Json.hasForm r.encode then .ok (Json.pretty r.encode) else .error .json

/-- Reads a report. -/
def decode : Decoder Report := fun v => do
  let r ← Record.of? .json ["title", "projectPath", "timestamp", "tasks"] v
  let tasks ← r.required "tasks" (Decoder.entries Task.decode)
  some
    { title := ← r.required "title" Decoder.text
      projectPath := ← r.required "projectPath" Decoder.text
      timestamp := ← r.required "timestamp" fun v => (Decoder.text v).bind Instant.parse?
      tasks := tasks.foldl (fun acc (id, t) => insertTask id t acc) [] }

/-- The report that a text holds. -/
def ofJson (text : String) : Except SetupError Report :=
  match (Json.parse? text).bind decode with
  | some r => .ok r
  | none => .error .json

/-- Writes a report to a file. -/
def write (r : Report) (t : Files.Tree) (path : String) : Except SetupError Files.Tree := do
  let text ← r.toJson
  match t.writeText path text with
  | .ok t => .ok t
  | .error e => .error (.io path e)

end Report

end Uplift
