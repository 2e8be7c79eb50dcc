import Uplift.Rule
import Uplift.SetupError
import Uplift.Yaml.Reader
/-! # Rule catalogs

A catalog is a YAML file of rules, or a directory of such files. The rules of all its files are put
together, must have different ids, and are ordered by their `order`; rules of equal order stay in
the order of files and of places in a file.

* `Catalog.parse`, `Catalog.load`: the two ways to read one.
-/

namespace Uplift.Catalog

open Files

/-- The rules that a document value holds: none for null, several for a sequence, or one. -/
def rules? : Value → Option (List Rule)
  | .null => some []
  | .seq items => Decoder.all (Rule.decode .yaml) items
  | v => (Rule.decode .yaml v).map ([·])

/-- The rules of a text; `origin` is the file that an error names. -/
def parse (text origin : String) : Except SetupError (List Rule) :=
  match (Yaml.read? text).bind rules? with
  | some rules => .ok rules
  | none => .error (.yaml origin)

/-- A file name that marks rules. -/
def isRuleFile (name : String) : Bool :=
  extension? name = some "yaml" || extension? name = some "yml"

/-- The paths of a directory's rule files, in order. The directory is not listed if it has an entry,
of whatever kind, whose name is no text. -/
def ruleFiles (t : Tree) (dir : String) : Except SetupError (List String) :=
  match t.locate dir with
  | .error e => .error (.io dir e)
  | .ok p =>
    let names := (t.children p).map (·.1)
    match names.find? fun n => !isUtf8 [n] with
    | some n => .error (.io dir (.badName (join dir n)))
    | none =>
      let files := names.filter fun n => isRuleFile n && t.isFile (join dir n)
      .ok ((files.mergeSort fun a b => a ≤ b).map (join dir))

/-- The rules of a file. -/
def loadFile (t : Tree) (path : String) : Except SetupError (List Rule) :=
  match t.readText path with
  | .ok text => parse text path
  | .error e => .error (.io path e)

/-- The first id that an earlier rule has too. -/
def duplicate? : (seen : List String) → List Rule → Option String
  | _, [] => none
  | seen, r :: rest => if seen.contains r.id then some r.id else duplicate? (r.id :: seen) rest

/-- The rules of several files put together. -/
def finish (rules : List Rule) : Except SetupError (List Rule) :=
  match duplicate? [] rules with
  | some id => .error (.rule (.configuration (.duplicateRule id)))
  | none => .ok (rules.mergeSort fun a b => a.order ≤ b.order)

/-- The rules at a path. -/
def load (t : Tree) (path : String) : Except SetupError (List Rule) := do
  let files ←
    if t.isDir path then ruleFiles t path
    else if t.isFile path then .ok [path]
    else .error (.notFileOrDir path)
  let lists ← files.mapM (loadFile t)
  finish lists.flatten

end Uplift.Catalog
