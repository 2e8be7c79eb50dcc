import Uplift.Pom
import Uplift.Scan.Scanner
import Uplift.Scan.Walker
/-! # Search for dependencies

Finds declared dependencies in the project descriptions below the root. A part of the query that is
no coordinate is answered by a sentinel.

* `Dependencies.search` is the whole search, as a function of the files.
-/

namespace Uplift.Scan.Dependencies

/-- A part of a query, read. -/
inductive Part where
  | wanted (c : Coordinate)
  | malformed (text : String)
deriving DecidableEq, Repr

/-- The parts of a query between commas, without the blank ones. -/
def parts (gavs : String) : List Part :=
  ((gavs.toList.splitOn ',').filter fun s => !Text.isBlankText s).map fun s =>
    match Coordinate.parse? (String.ofList s) with
    | some c => .wanted c
    | none => .malformed (String.ofList (Text.trim s))

/-- The coordinates that are looked for. -/
def wanted (ps : List Part) : List Coordinate :=
  ps.filterMap fun
    | .wanted c => some c
    | .malformed _ => none

/-- The sentinels of the malformed parts. -/
def sentinels (ps : List Part) : List Match :=
  ps.filterMap fun
    | .wanted _ => none
    | .malformed s => some (Match.sentinel s)

/-- The matches in one project description: every dependency that is looked for, once. -/
def inPom (searches : List Coordinate) (source text : String) : List Match :=
  ((Pom.dependencies text).filter fun d => searches.any fun s => s.isMatch d).map fun d =>
    ⟨source, .maven, .dependency d⟩

/-- The walk over project descriptions. -/
def walker (config : ScanConfig) (t : Files.Tree) (root : String) : Except ScanError Walker := do
  let w ← Walker.of t root
  { w with skipDirs := config.skipDirs, followLinks := config.followLinks }.withGlob "pom.xml"

/-- The matches of a query. A project description that cannot be read has none. -/
def search (config : ScanConfig) (root gavs : String) (t : Files.Tree) :
    Except ScanError (List Match) := do
  let ps := parts gavs
  let searches := wanted ps
  if searches.isEmpty then .ok (sentinels ps)
  else
    let w ← walker config t root
    let poms ← w.collect t
    .ok (sentinels ps ++ poms.flatMap fun names =>
      match t.readText (w.pathOf names) with
      | .ok text => inPom searches (Files.relative names) text
      | .error _ => [])

/-- The scanner. -/
def scanner {σ : Type} : Scanner σ where
  kind := .maven
  supports q := q.asks "pom" "dependency"
  scan c q := do
    match ← c.request .maven q with
    | .dependency gavs => ScanM.read (search c.config.scan c.root gavs)
    | _ => ScanM.ofExcept (.error (.state (.foreignRequest .maven)))

end Uplift.Scan.Dependencies
