import Uplift.Files.Ignore
import Uplift.Files.Tree
import Uplift.Scan.Error
/-! # Walks

A walk collects the files below a directory. It leaves out what ignore files name, and hidden
entries, unless it is told to take everything; it does not enter directories with a skipped name. A
file whose path is no text makes it fail, whether or not the glob would keep it.

* `Walker.collect` gives the names that lead to each file, in order.
* `Walker.admits`: the decision on one entry.
-/

namespace Uplift.Scan

open Files

/-- The ignore files of one directory. A path below the walked directory is seen from there when the
names `lead` are put before it, or its first `depth` names are left off. -/
structure Level where
  lead : List String := []
  depth : Nat := 0
  files : List IgnoreFile

/-- The path of an entry, seen from a level. -/
def Level.path (l : Level) (names : List String) : String :=
  relative (l.lead ++ names.drop l.depth)

/-- How to walk. -/
structure Walker where
  root : String
  skipDirs : List String := []
  followLinks : Bool := false
  standardFilters : Bool := true
  glob : Option (List Pattern) := none

namespace Walker

/-- The names of ignore files, the strongest first. -/
def ignoreNames : List (List String) := [[".ignore"], [".gitignore"], [".git", "info", "exclude"]]

/-- The ignore files of a directory, in the order of `ignoreNames`. -/
def ignoreFiles (t : Tree) (dir : Place) : List IgnoreFile :=
  ignoreNames.map fun names =>
    match t.readBytes (Tree.pathOf (dir ++ names)) with
    | .ok bytes => .ofBytes bytes
    | .error _ => {}

/-- The levels above a place, the nearest first. -/
def levelsAbove (t : Tree) (place : Place) : List Level :=
  ((List.range place.length).map fun k =>
    { lead := place.drop k, files := ignoreFiles t (place.take k) }).reverse

/-- What the ignore files of one kind say: the nearest that says something. -/
def verdictOf (levels : List Level) (kind : Nat) (names : List String) (isDir : Bool) : Verdict :=
  levels.foldr (fun l later =>
    match l.files[kind]? with
    | some f => (Pattern.verdict f.patterns (l.path names) isDir).or later
    | none => later) .silent

/-- What ignore files say, the nearest level first, the strongest kind before the others. -/
def verdict (levels : List Level) (names : List String) (isDir : Bool) : Verdict :=
  ((verdictOf levels 0 names isDir).or (verdictOf levels 1 names isDir)).or
    (verdictOf levels 2 names isDir)

/-- A name begins with a dot. -/
def isHidden (name : String) : Bool := name.toList.head? = some '.'

/-- An entry is not left out: ignore files keep it, or say nothing and it is not hidden; and it is
no directory with a skipped name. -/
def admits (w : Walker) (levels : List Level) (names : List String) (isDir : Bool) : Bool :=
  let name := names.getLastD ""
  (!w.standardFilters ||
    match verdict levels names isDir with
    | .leave => false
    | .keep => true
    | .silent => !isHidden name) &&
  !(isDir && w.skipDirs.contains name)

/-- The path of a file that was found. -/
def pathOf (w : Walker) (names : List String) : String := joinNames w.root names

/-- The glob keeps a file. -/
def wants (w : Walker) (names : List String) : Bool :=
  match w.glob with
  | none => true
  | some patterns => Pattern.verdict patterns (relative names) false = .leave

/-- What a child of a directory is: where it stands, after a link if links are followed, and what
stands there. -/
def child (w : Walker) (t : Tree) (dir : Place) (name : String) (e : Entry) :
    Except ScanError (Place × Entry) :=
  let place := dir ++ [name]
  match e with
  | .link _ =>
    if w.followLinks then
      match t.locate (Tree.pathOf place) with
      | .ok target =>
        match t.get? target with
        | some entry => .ok (target, entry)
        | none => .error .walk
      | .error _ => .error .walk
    else .ok (place, e)
  | _ => .ok (place, e)

/-- The files below a directory. `open'` are the places of the directories that are being walked;
a link to one of them would be walked for ever. -/
def below (w : Walker) (t : Tree) : (fuel : Nat) → (levels : List Level) → (open' : List Place) →
    (dir : Place) → (names : List String) → Except ScanError (List (List String))
  | 0, _, _, _, _ => .error .walk
  | fuel + 1, levels, open', dir, names => do
    let levels :=
      if w.standardFilters then
        { depth := names.length, files := ignoreFiles t dir } :: levels
      else levels
    let found ← (t.children dir).mapM fun (name, e) => do
      let (place, entry) ← child w t dir name e
      let names := names ++ [name]
      -- Only a link leads back to a directory that is being walked.
      if entry = .dir && place ≠ dir ++ [name] && open'.contains place then .error .walk
      else if !w.admits levels names entry.isDir then .ok []
      else match entry with
        | .dir => below w t fuel levels (place :: open') place names
        | .file _ _ =>
          if isUtf8 names then .ok (if w.wants names then [names] else [])
          else .error (.nonUtf8Path (w.pathOf names))
        | .link _ => .ok []
    .ok found.flatten

/-- How deep a walk can go: a directory is entered at most once by itself and once by a link for
each directory above it. -/
def maxDepth (t : Tree) : Nat := (t.entries.length + 2) * (t.entries.length + 2)

/-- A walker for a directory. -/
def of (t : Tree) (root : String) : Except ScanError Walker :=
  if t.isDir root then .ok { root } else .error (.state (.notDirectory root))

/-- The walker with a glob, which is a pattern whose files are kept. -/
def withGlob (w : Walker) (glob : String) : Except ScanError Walker :=
  match Pattern.parse false glob.toList with
  | .nothing => .ok { w with glob := some [] }
  | .pattern p => .ok { w with glob := some [p] }
  | .malformed => .error (.pattern glob)

/-- The names that lead from the walked directory to its files, in order. -/
def collect (w : Walker) (t : Tree) : Except ScanError (List (List String)) :=
  match t.locate w.root with
  | .error _ => .error .walk
  | .ok place => do
    let above := if w.standardFilters then levelsAbove t place else []
    if above.all fun l => l.files.all (·.sound) then
      let found ← below w t (maxDepth t) above [place] place []
      .ok (found.mergeSort namesLe)
    else .error .walk

end Walker

end Uplift.Scan
