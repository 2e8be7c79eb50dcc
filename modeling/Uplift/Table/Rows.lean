import Uplift.Table.Csv
import Uplift.Match
import Uplift.Scan.Walker
/-! # Data tables

A data table is a file of records; the first of them names the columns. A search finds its rows by
its match id, in the column that is called so, however that is spelled.
-/

namespace Uplift.Table

/-- A column's name in one spelling: its letters and digits, in lower case. -/
def columnKey (header : String) : String :=
  String.ofList ((header.toList.filter Text.isAsciiAlnum).map Char.toLower)

/-- The column of match ids. -/
def idColumn? (header : List String) : Option Nat :=
  header.findIdx? fun h => columnKey h = "matchid"

/-- The rows of records under a match id. A row that is longer than the header is cut, and one that
is shorter has fewer columns. -/
def rowsOf (id : String) : List (List String) → List TableRow
  | [] => []
  | header :: rows =>
    match idColumn? header with
    | none => []
    | some column => (rows.filter fun row => row[column]? = some id).map fun row =>
        { matchId := id, columns := header.zip row }

/-- The rows of a file under a match id. -/
def readRows (t : Files.Tree) (path id : String) : Except ScanError (List TableRow) :=
  match t.readText path with
  | .error e => .error (.read path e)
  | .ok text =>
    match Csv.parse? text.toList with
    | none => .error (.table path .unclosedQuote)
    | some records => .ok (rowsOf id records)

/-- The tables below a directory, in order; there are none if it is no directory. Ignore files do
not count: what a build writes is often named in them. -/
def files (t : Files.Tree) (dir : String) : Except ScanError (List String) := do
  if !t.isDir dir then .ok []
  else
    let w ← (← Scan.Walker.of t dir).withGlob "*.csv"
    let w := { w with standardFilters := false }
    .ok ((← w.collect t).map w.pathOf)

end Uplift.Table
