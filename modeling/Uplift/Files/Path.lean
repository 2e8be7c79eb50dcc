/-! # Paths

A path is a text whose names are separated by slashes. What it means is its list of steps: repeated
slashes, a slash at the end and single dots count for nothing, and two dots go one level up.

* `join` appends a path to a directory, unless it is absolute.
* `parts` are the steps of a path.

A file system has names that are no UTF-8 text. Where such a name stands in a list of names, each
stretch of bytes that is no text is between two null characters, as the characters with the numbers
of these bytes. No path leads there, since a path with a null character leads nowhere.

* `isUtf8` tells whether names are text.
-/

namespace Uplift.Files

/-- One step of a path. -/
inductive Step where
  | root
  | here
  | up
  | down (name : String)
deriving DecidableEq, Repr

/-- The name of a step in a path. -/
def Step.name : Step → String
  | .root => ""
  | .here => "."
  | .up => ".."
  | .down name => name

/-- The path that takes steps. -/
def ofSteps (steps : List Step) : String :=
  if steps = [.root] then "/" else "/".intercalate (steps.map Step.name)

/-- The names between the slashes of a text. -/
def segments (path : String) : List String := (path.toList.splitOn '/').map String.ofList

/-- A path begins at the root. -/
def isAbsolute (path : String) : Bool := path.toList.head? = some '/'

/-- The step of a name that is not the first. -/
def innerStep? (name : String) : Option Step :=
  if name = "" || name = "." then none else if name = ".." then some .up else some (.down name)

/-- The steps of a path. A dot counts only at the beginning. -/
def parts (path : String) : List Step :=
  match segments path with
  | [] => []
  | first :: rest =>
    let lead : List Step :=
      if isAbsolute path then [.root]
      else if first = "." then [.here]
      else (innerStep? first).toList
    lead ++ rest.filterMap innerStep?

/-- A path below a directory; an absolute path stays as it is. -/
def join (dir path : String) : String :=
  if isAbsolute path then path
  else if dir.isEmpty then path
  else if dir.toList.getLast? = some '/' then dir ++ path
  else dir ++ "/" ++ path

/-- A path below a directory, from names. -/
def joinNames (dir : String) (names : List String) : String := names.foldl join dir

/-- The names are text. -/
def isUtf8 (names : List String) : Bool := names.all fun name => !name.toList.contains '\x00'

/-- A path as it is shown, with a replacement character for each stretch that is no text. -/
def shown (path : String) : String := String.ofList (go false path.toList)
where
  /-- The characters from here on; `inside` is set between two null characters. -/
  go : (inside : Bool) → List Char → List Char
    | _, [] => []
    | false, '\x00' :: rest => '\uFFFD' :: go true rest
    | true, '\x00' :: rest => go false rest
    | false, c :: rest => c :: go false rest
    | true, _ :: rest => go true rest

/-- Names with slashes between them. -/
def relative (names : List String) : String := "/".intercalate names

/-- The last name of a path. -/
def fileName? (path : String) : Option String :=
  match (parts path).getLast? with
  | some (.down name) => some name
  | _ => none

/-- A path without its last step, if that is not the root. -/
def parent? (path : String) : Option String :=
  match (parts path).reverse with
  | [] => none
  | .root :: _ => none
  | _ :: rest => some (ofSteps rest.reverse)

/-- The name after its last dot, unless the dot is its first character. -/
def extension? (name : String) : Option String :=
  if name = ".." then none
  else
    let reversed := name.toList.reverse
    match reversed.span (· ≠ '.') with
    | (ext, '.' :: _ :: _) => some (String.ofList ext.reverse)
    | _ => none

/-- The name before its last dot, unless the dot is its first character. -/
def stem (name : String) : String :=
  if name = ".." then name
  else
    let reversed := name.toList.reverse
    match reversed.span (· ≠ '.') with
    | (_, '.' :: c :: rest) => String.ofList (c :: rest).reverse
    | _ => name

/-- Lists of names in the order of a listing: name by name, a shorter list before its extensions. -/
def namesLe : List String → List String → Bool
  | [], _ => true
  | _ :: _, [] => false
  | a :: as, b :: bs => if a = b then namesLe as bs else a < b

end Uplift.Files
