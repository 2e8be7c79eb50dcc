import Uplift.Regex.Reader
import Uplift.Scan.Scanner
import Uplift.Scan.Walker
/-! # Search in files

Finds files by name, and lines by what they contain. What a pattern means is up to an engine for
regular expressions, which the search is given.

* `FileSearch.linesOf`: the places of the lines of a text that an expression matches.
* `FileSearch.search` is the whole search, as a function of the files.
* `FileSearch.scanner` searches with `FileSearch.engine`.
-/

namespace Uplift.Scan.FileSearch

/-- An engine takes a pattern up, if it is one. Then it says of each line how many characters stand
before the first match. -/
abbrev Engine := String → Option (List Char → Option Nat)

/-- The engine for the expressions of `Regex`. -/
def engine : Engine := fun content => (Regex.parse? content).map Regex.find?

/-- A place as a match. -/
def located (l : Location) : Match := ⟨l.path, .file, .location l⟩

/-- The lines that a pattern matches, with their numbers from `n` on; `find` says how many
characters stand before the first match in a line. -/
def linesFrom (find : List Char → Option Nat) (source : String) (n : Nat) :
    List (List Char) → List Location
  | [] => []
  | line :: rest =>
    match find line with
    | some before =>
      ⟨source, n, before + 1, String.ofList line⟩ :: linesFrom find source (n + 1) rest
    | none => linesFrom find source (n + 1) rest

/-- The places of the lines of a text that a pattern matches. -/
def linesOf (find : List Char → Option Nat) (source text : String) : List Location :=
  linesFrom find source 1 (Text.lines text.toList)

/-- The walk over a project's files, with a glob if there is one. -/
def walker (config : ScanConfig) (t : Files.Tree) (root : String) (glob : Option String) :
    Except ScanError Walker := do
  let w ← Walker.of t root
  let w := { w with skipDirs := config.skipDirs, followLinks := config.followLinks }
  match glob with
  | some g => w.withGlob g
  | none => .ok w

/-- The files with a name, each at its beginning. -/
def named (config : ScanConfig) (root name : String) (t : Files.Tree) :
    Except ScanError (List Location) := do
  let w ← walker config t root (some name)
  .ok ((← w.collect t).map fun names => ⟨Files.relative names, 0, 0, ""⟩)

/-- The lines with a content. A file that cannot be read has none. -/
def containing (compile : Engine) (config : ScanConfig) (root content : String)
    (name : Option String) (t : Files.Tree) : Except ScanError (List Location) := do
  match compile content with
  | none => .error (.pattern content)
  | some find =>
    let w ← walker config t root name
    .ok ((← w.collect t).flatMap fun names =>
      match t.readText (w.pathOf names) with
      | .ok text => linesOf find (Files.relative names) text
      | .error _ => [])

/-- The matches of a request. -/
def search (compile : Engine) (config : ScanConfig) (root : String) (name content : Option String)
    (t : Files.Tree) : Except ScanError (List Match) := do
  match content, name with
  | some content, _ => .ok ((← containing compile config root content name t).map located)
  | none, some name => .ok ((← named config root name t).map located)
  | none, none => .error (.state .noFilePattern)

/-- The scanner with an engine. -/
def scannerWith {σ : Type} (compile : Engine) : Scanner σ where
  kind := .file
  supports q := q.asks "file" "name" || q.asks "file" "content"
  scan c q := do
    match ← c.request .file q with
    | .file name content => ScanM.read (search compile c.config.scan c.root name content)
    | _ => ScanM.ofExcept (.error (.state (.foreignRequest .file)))

/-- The scanner. -/
def scanner {σ : Type} : Scanner σ := scannerWith engine

end Uplift.Scan.FileSearch
