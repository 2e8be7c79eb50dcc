import Uplift.Files.Glob
import Uplift.Text.Blank
/-! # Ignore files

An ignore file has one pattern a line. The last line that matches a path decides: it leaves the path
out, or keeps it if it begins with an exclamation mark.

* `Pattern.parse?` reads a line; `verdict` gives the decision on a path.
-/

namespace Uplift.Files

/-- A line of an ignore file. -/
structure Pattern where
  glob : List Piece
  keeps : Bool := false
  dirOnly : Bool := false
deriving Repr

/-- What patterns say about a path. -/
inductive Verdict where
  | leave | keep | silent
deriving DecidableEq, Repr

namespace Verdict

/-- The first of two that says something. -/
def or : Verdict → Verdict → Verdict
  | silent, v => v
  | v, _ => v

end Verdict

namespace Pattern

/-- What comes of reading a line. -/
inductive Line where
  | nothing
  | pattern (p : Pattern)
  | malformed

/-- A line without the blanks at its end, unless the last of them is escaped. -/
def trimLine (line : List Char) : List Char :=
  if [' ', '\\'].isPrefixOf line.reverse then line else Text.trimEnd line

/-- The glob of a pattern, from what is left of it. A pattern without slashes matches at any depth,
and one that ends with `/**` does not match the directory itself. -/
def globText (anchored : Bool) (body : List Char) : List Char :=
  let deep : List Char := ['*', '*']
  let full :=
    if anchored || body.contains '/' || body = deep then body else deep ++ '/' :: body
  if ['*', '*', '/'].isPrefixOf full.reverse then full ++ ['/', '*'] else full

/-- Reads a line. Brackets that are not closed mean themselves if `lenient` is set. -/
def parse (lenient : Bool) (line : List Char) : Line :=
  let text := trimLine line
  if line.head? = some '#' || text.isEmpty then .nothing
  else
    let escaped := ['\\', '!'].isPrefixOf text || ['\\', '#'].isPrefixOf text
    let keeps := !escaped && text.head? = some '!'
    let body := if escaped || keeps then text.tail else text
    let anchored := !escaped && body.head? = some '/'
    let body := if anchored then body.tail else body
    let dirOnly := body.getLast? = some '/'
    let body := if dirOnly then body.dropLast else body
    let body := if dirOnly && body.getLast? = some '\\' then body.dropLast else body
    match Glob.parse? lenient (globText anchored body) with
    | some glob => .pattern ⟨glob, keeps, dirOnly⟩
    | none => .malformed

/-- A pattern matches a path. -/
def isMatch (p : Pattern) (path : String) (isDir : Bool) : Bool :=
  (!p.dirOnly || isDir) && Glob.isMatch p.glob path

/-- What patterns say about a path: the last that matches decides. -/
def verdict (ps : List Pattern) (path : String) (isDir : Bool) : Verdict :=
  match ps.reverse.find? (·.isMatch path isDir) with
  | some p => if p.keeps then .keep else .leave
  | none => .silent

end Pattern

/-- The patterns of an ignore file. It is sound if all its lines are. -/
structure IgnoreFile where
  patterns : List Pattern := []
  sound : Bool := true

namespace IgnoreFile

/-- An ignore file from its lines; malformed lines are left out. -/
def ofLines (lines : List (List Char)) : IgnoreFile :=
  let read := lines.map (Pattern.parse true)
  { patterns := read.filterMap fun
      | .pattern p => some p
      | _ => none
    sound := read.all fun
      | .malformed => false
      | _ => true }

/-- An ignore file from its bytes: the lines before the first that is not UTF-8, without the mark of
byte order at the beginning. -/
def ofBytes (bytes : List UInt8) : IgnoreFile :=
  ofLines (match (Text.textLines bytes).map String.toList with
    | first :: rest => first.dropWhile (· = '\uFEFF') :: rest
    | [] => [])

end IgnoreFile

end Uplift.Files
