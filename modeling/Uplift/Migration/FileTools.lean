import Uplift.Migration.Chat
import Uplift.Migration.Error
import Uplift.Text.Blank
/-! # File tools

An assistant sees and changes a project through two tools, one that reads a file and one that writes
it. Both take paths inside the project. Reading a path gives a licence to write it once.

* `FileTools.resolve` gives the names that a path stands for.
* `FileTools.perform` is one use of the tools; `FileTools.performAll` is several, one after the
  other.
-/

namespace Uplift.Migration

/-- The tools for one project, and the paths that may be written. -/
structure FileTools where
  root : String
  licensed : List (List String) := []
deriving DecidableEq, Repr

/-- One use of the tools. -/
inductive ToolUse where
  | read (path : String)
  | write (path content : String)
  /-- What an assistant asks for: any tool with any arguments. -/
  | call (name : String) (arguments : Value)

namespace FileTools

/-- The name of the tool that reads. -/
def readTool : String := "read_file"

/-- The name of the tool that writes. -/
def writeTool : String := "write_file"

/-- The argument of both tools. -/
def pathForm : Value :=
  .record [("type", .str "string"), ("description", .str "Path relative to the project root")]

/-- What an assistant is told about the tools. -/
def definitions : List ToolDefinition :=
  let form (properties : List (String × Value)) : Value :=
    Value.sortKeys (.record [("type", .str "object"), ("properties", .record properties),
      ("required", .strings (properties.map (·.1)))])
  [⟨readTool, "Read a file of the project. Required before every write to the same path.",
      form [("path", pathForm)]⟩,
    ⟨writeTool, "Replace the contents of a file previously read with read_file.",
      form [("path", pathForm),
        ("content", .record [("type", .str "string"), ("description", .str "New file contents")])]⟩]

/-- The names of steps that neither leave their directory nor begin at the root. -/
def namesOf : List Files.Step → Option (List String)
  | [] => some []
  | .down name :: rest => (namesOf rest).map (name :: ·)
  | .here :: rest => namesOf rest
  | .up :: _ => none
  | .root :: _ => none

/-- The names that lead from the project to a path; there are none if the path is empty or leads out
of the project. -/
def resolve (path : String) : Except ToolFault (List String) :=
  let inner := Text.trimmed path
  if inner.isEmpty then .error .emptyPath
  else match namesOf (Files.parts inner) with
    | some names => .ok names
    | none => .error (.outside path)

/-- The path of names below the project. -/
def pathOf (f : FileTools) (names : List String) : String := Files.joinNames f.root names

/-- The text of a file; a file that is not there reads as empty. -/
def textOf (t : Files.Tree) (path : String) : Except Files.FileError String :=
  match t.readText path with
  | .error .notFound => .ok ""
  | r => r

/-- Reads a file and gives the licence to write it. -/
def read (f : FileTools) (path : String) (t : Files.Tree) :
    Except ProviderError String × FileTools :=
  match resolve path with
  | .error e => (.error (.toolCall e), f)
  | .ok names =>
    match textOf t (f.pathOf names) with
    | .error e => (.error (.io (f.pathOf names) e), f)
    | .ok text => (.ok text, { f with licensed := names :: f.licensed.filter (· ≠ names) })

/-- Writes a file that there is a licence for. The licence is used up even if the writing fails. -/
def write (f : FileTools) (path content : String) (t : Files.Tree) :
    Except ProviderError String × FileTools × Files.Tree :=
  match resolve path with
  | .error e => (.error (.toolCall e), f, t)
  | .ok names =>
    if f.licensed.contains names then
      let place := f.pathOf names
      let f := { f with licensed := f.licensed.filter (· ≠ names) }
      match t.writeTextIn (Files.parent? place) place content with
      | (.error (failed, e), t) => (.error (.io failed e), f, t)
      | (.ok (), t) =>
        (.ok ("wrote " ++ toString content.utf8ByteSize ++ " bytes to " ++ path), f, t)
    else (.error (.toolCall (.unread path)), f, t)

/-- A text among the arguments of a call. -/
def argument (tool key : String) (arguments : Value) : Except ToolFault String :=
  match (arguments.get? key).bind Value.asStr? with
  | some s => .ok s
  | none => .error (.missingArgument tool key)

/-- The use that a call stands for. -/
def useOf (name : String) (arguments : Value) : Except ToolFault ToolUse := do
  if name = readTool then .ok (.read (← argument name "path" arguments))
  else if name = writeTool then
    let path ← argument name "path" arguments
    .ok (.write path (← argument name "content" arguments))
  else .error (.unknownTool name)

/-- Uses a tool that an assistant calls by its name. -/
def call (f : FileTools) (name : String) (arguments : Value) (t : Files.Tree) :
    Except ProviderError String × FileTools × Files.Tree :=
  match useOf name arguments with
  | .ok (.read path) => let (r, f) := f.read path t; (r, f, t)
  | .ok (.write path content) => f.write path content t
  | .ok (.call name _) => (.error (.toolCall (.unknownTool name)), f, t)
  | .error e => (.error (.toolCall e), f, t)

/-- Uses the tools. -/
def perform (f : FileTools) (u : ToolUse) (t : Files.Tree) :
    Except ProviderError String × FileTools × Files.Tree :=
  match u with
  | .read path => let (r, f) := f.read path t; (r, f, t)
  | .write path content => f.write path content t
  | .call name arguments => f.call name arguments t

/-- Uses the tools several times. -/
def performAll (f : FileTools) (t : Files.Tree) :
    List ToolUse → List (Except ProviderError String) × FileTools × Files.Tree
  | [] => ([], f, t)
  | u :: rest =>
    let (r, f, t) := f.perform u t
    let (rs, f, t) := f.performAll t rest
    (r :: rs, f, t)

end FileTools

end Uplift.Migration
