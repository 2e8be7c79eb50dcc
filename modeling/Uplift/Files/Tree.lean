import Uplift.Files.Path
import Uplift.Text.Lines
/-! # File trees

A file tree is a value: entries under absolute places. A place is the list of names from the root.
Operations take paths as texts, follow symbolic links as they walk down, and fail with the causes
that an operating system reports.

* `Tree.get?`, `Tree.put`, `Tree.erase` are the operations on places, with their laws
  (`get?_put`, `get?_erase`).
* `Tree.locate` leads from a path to a place.
-/

namespace Uplift.Files

/-- Why an operation on files failed. -/
inductive FileError where
  | notFound
  | exists
  | notDirectory
  | isDirectory
  | nameTooLong
  | tooManyLinks
  | notUtf8
  | hasNul
  | badName (path : String)
deriving DecidableEq, Repr

/-- The wording of a cause. -/
def FileError.message : FileError → String
  | notFound => "No such file or directory (os error 2)"
  | «exists» => "File exists (os error 17)"
  | notDirectory => "Not a directory (os error 20)"
  | isDirectory => "Is a directory (os error 21)"
  | nameTooLong => "File name too long (os error 36)"
  | tooManyLinks => "Too many levels of symbolic links (os error 40)"
  | notUtf8 => "stream did not contain valid UTF-8"
  | hasNul => "file name contained an unexpected NUL byte"
  | badName path => "PathBuf contains invalid UTF-8: " ++ shown path

/-- The names from the root to an entry. -/
abbrev Place := List String

/-- What stands at a place. -/
inductive Entry where
  | file (content : List UInt8) (executable : Bool)
  | dir
  | link (target : String)
deriving DecidableEq, Repr

/-- The entry is a directory. -/
def Entry.isDir : Entry → Bool
  | .dir => true
  | _ => false

/-- The entries of a file tree below its root, and the place where relative paths begin. -/
structure Tree where
  entries : List (Place × Entry) := []
  cwd : Place := []
deriving Repr

namespace Tree

/-- The entry at a place; the root is a directory. -/
def get? (t : Tree) (p : Place) : Option Entry := if p = [] then some .dir else t.entries.lookup p

/-- Sets an entry. -/
def put (t : Tree) (p : Place) (e : Entry) : Tree :=
  { t with entries := (p, e) :: t.entries.filter (·.1 ≠ p) }

/-- Removes an entry. -/
def erase (t : Tree) (p : Place) : Tree := { t with entries := t.entries.filter (·.1 ≠ p) }

theorem lookup_filter_ne (p q : Place) (es : List (Place × Entry)) (h : q ≠ p) :
    (es.filter (·.1 ≠ p)).lookup q = es.lookup q := by
  induction es with
  | nil => rfl
  | cons e es ih =>
    obtain ⟨k, n⟩ := e
    by_cases hk : k = p
    · subst hk
      simpa [List.lookup_cons, beq_eq_false_iff_ne.2 h] using ih
    · by_cases hq : q = k
      · subst hq
        simp [hk]
      · simpa [hk, List.lookup_cons, beq_eq_false_iff_ne.2 hq] using ih

theorem lookup_filter_eq (p : Place) (es : List (Place × Entry)) :
    (es.filter (·.1 ≠ p)).lookup p = none := by
  induction es with
  | nil => rfl
  | cons e es ih =>
    obtain ⟨k, n⟩ := e
    by_cases hk : k = p
    · subst hk
      simpa using ih
    · simpa [hk, List.lookup_cons, beq_eq_false_iff_ne.2 (Ne.symm hk)] using ih

theorem get?_put (t : Tree) {p : Place} (e : Entry) (q : Place) (h : p ≠ []) :
    (t.put p e).get? q = if q = p then some e else t.get? q := by
  by_cases hq : q = p
  · subst hq
    simp [get?, put, h]
  · by_cases hn : q = []
    · simp [get?, hn, Ne.symm h]
    · simp only [get?, put, hn, if_false, hq, List.lookup_cons, beq_eq_false_iff_ne.2 hq]
      exact lookup_filter_ne p q t.entries hq

theorem get?_erase (t : Tree) {p : Place} (q : Place) (h : p ≠ []) :
    (t.erase p).get? q = if q = p then none else t.get? q := by
  by_cases hq : q = p
  · subst hq
    simpa [get?, erase, h] using lookup_filter_eq q t.entries
  · by_cases hn : q = []
    · simp [get?, hn, Ne.symm h]
    · simp only [get?, erase, hn, if_false, hq]
      exact lookup_filter_ne p q t.entries hq

/-- How many bytes a name may have. -/
def maxName : Nat := 255

/-- Walks from a directory along names. `links` bounds how many symbolic links may be followed; the
last name is followed only if `last` is set. The place need not hold anything. -/
def walk (t : Tree) (last : Bool) (links : Nat) (from' : Place) (names : List String) :
    Except FileError Place :=
  match names with
  | [] => .ok from'
  | name :: rest =>
    match t.get? from' with
    | some .dir =>
      if name = "" || name = "." then walk t last links from' rest
      else if name = ".." then walk t last links from'.dropLast rest
      else if maxName < name.utf8ByteSize then .error .nameTooLong
      else
        let next := from' ++ [name]
        match t.get? next with
        | some (.link target) =>
          if rest.isEmpty && !last then .ok next
          -- The names of the target take the place of the link's.
          else match links with
            | 0 => .error .tooManyLinks
            | links + 1 =>
              walk t last links (if isAbsolute target then [] else from') (segments target ++ rest)
        | some _ => walk t last links next rest
        | none => if rest.isEmpty then .ok next else .error .notFound
    | some _ => .error .notDirectory
    | none => .error .notFound
-- Following a link may give more names, but uses a link up.
termination_by (links, names.length)

/-- How many symbolic links a walk may follow. -/
def maxLinks : Nat := 40

/-- How many bytes a path may have. -/
def maxPath : Nat := 4095

/-- The place of a path, where `last` says whether a link at its end is followed. -/
def resolve (t : Tree) (last : Bool) (path : String) : Except FileError Place :=
  if path.toList.contains '\x00' then .error .hasNul
  else if path.isEmpty then .error .notFound
  else if maxPath < path.utf8ByteSize then .error .nameTooLong
  else walk t last maxLinks (if isAbsolute path then [] else t.cwd) (segments path)

/-- The place of a path, a link at its end followed. -/
def locate (t : Tree) (path : String) : Except FileError Place := t.resolve true path

/-- The place of a path, a link at its end not followed. -/
def locateLink (t : Tree) (path : String) : Except FileError Place := t.resolve false path

/-- What a path leads to. -/
def find? (t : Tree) (path : String) : Option Entry :=
  match t.locate path with
  | .ok p => t.get? p
  | .error _ => none

/-- A path leads to a directory. -/
def isDir (t : Tree) (path : String) : Bool :=
  match t.find? path with
  | some .dir => true
  | _ => false

/-- A path leads to a file. -/
def isFile (t : Tree) (path : String) : Bool :=
  match t.find? path with
  | some (.file _ _) => true
  | _ => false

/-- The content of a file. -/
def readBytes (t : Tree) (path : String) : Except FileError (List UInt8) := do
  let p ← t.locate path
  match t.get? p with
  | some (.file content _) => .ok content
  | some .dir => .error .isDirectory
  | some (.link _) => .error .tooManyLinks
  | none => .error .notFound

/-- The text of a file. -/
def readText (t : Tree) (path : String) : Except FileError String := do
  let bytes ← t.readBytes path
  match Text.ofBytes? bytes with
  | some s => .ok s
  | none => .error .notUtf8

/-- Writes a file, in place of its content if it is there. Its directory must be there. -/
def writeBytes (t : Tree) (path : String) (content : List UInt8) : Except FileError Tree := do
  let p ← t.locate path
  match t.get? p with
  | some (.file _ x) => .ok (t.put p (.file content x))
  | some .dir => .error .isDirectory
  | some (.link _) => .error .tooManyLinks
  | none => .ok (t.put p (.file content false))

/-- Writes a text to a file. -/
def writeText (t : Tree) (path text : String) : Except FileError Tree :=
  t.writeBytes path (Text.toBytes text)

/-- Makes a directory where nothing is. -/
def makeDir (t : Tree) (path : String) : Except FileError Tree := do
  let p ← t.locateLink path
  match t.get? p with
  | some _ => .error .exists
  | none => .ok (t.put p .dir)

/-- Makes a directory and those above it, as far as they are not there. What is made before a
failure stays. -/
def ensureDirs (t : Tree) (path : String) : Except FileError Unit × Tree :=
  go (path.length + 1) t path
where
  /-- One directory after the directories above it. -/
  go : Nat → Tree → String → Except FileError Unit × Tree
    | 0, t, _ => (.error .notFound, t)
    | fuel + 1, t, path =>
      if path.isEmpty then (.ok (), t)
      else match t.makeDir path with
        | .ok t => (.ok (), t)
        | .error .notFound =>
          match parent? path with
          | none => (.error .notFound, t)
          | some above =>
            match go fuel t above with
            | (.error e, t) => (.error e, t)
            | (.ok (), t) =>
              match t.makeDir path with
              | .ok t => (.ok (), t)
              | .error e => (if t.isDir path then .ok () else .error e, t)
        | .error e => (if t.isDir path then .ok () else .error e, t)

/-- The tree in which a directory and those above it are made, if they can be. -/
def makeDirs (t : Tree) (path : String) : Except FileError Tree :=
  match t.ensureDirs path with
  | (.ok (), t) => .ok t
  | (.error e, _) => .error e

/-- Writes a text to a file, in a directory that is made if it is not there. A failure comes with
the path that it is about; what is made before it stays. -/
def writeTextIn (t : Tree) (dir : Option String) (path text : String) :
    Except (String × FileError) Unit × Tree :=
  match dir with
  | none => finish t
  | some dir =>
    match t.ensureDirs dir with
    | (.error e, t) => (.error (dir, e), t)
    | (.ok (), t) => finish t
where
  /-- The writing itself. -/
  finish (t : Tree) : Except (String × FileError) Unit × Tree :=
    match t.writeText path text with
    | .ok t => (.ok (), t)
    | .error e => (.error (path, e), t)

/-- Removes a file or a link. -/
def removeFile (t : Tree) (path : String) : Except FileError Tree := do
  let p ← t.locateLink path
  match t.get? p with
  | some .dir => .error .isDirectory
  | some _ => .ok (t.erase p)
  | none => .error .notFound

/-- The entries of a directory, by name. -/
def children (t : Tree) (p : Place) : List (String × Entry) :=
  t.entries.filterMap fun (q, e) =>
    match q.getLast? with
    | some name => if q.dropLast = p then some (name, e) else none
    | none => none

/-- The path of a place. -/
def pathOf (p : Place) : String := "/" ++ relative p

/-- The files below a place, by the names that lead there, in order. -/
def filesBelow (t : Tree) (p : Place) : List (List String × List UInt8) :=
  (t.entries.filterMap fun (q, e) =>
    match e with
    | .file content _ => if p.isPrefixOf q then some (q.drop p.length, content) else none
    | _ => none).mergeSort fun a b => namesLe a.1 b.1

end Tree

end Uplift.Files
