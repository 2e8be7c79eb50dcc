import Uplift.Files.Tree
/-! # Machines

A machine is what a running program sees: the files, its streams, its variables and a clock. A
program may stop in other ways than by coming to its end; among them, it may wait for input that is
not there yet.

* `Run` is a computation on a machine.
* `Machine.say` writes to a stream, wherever that leads.
-/

namespace Uplift.Shell

/-- Where a stream leads. -/
inductive Sink where
  | out | err
  | file (path : String)
  | nothing
  | closed
deriving DecidableEq, Repr

/-- What a running program sees. What was written is kept backwards. -/
structure Machine where
  tree : Files.Tree
  dir : String
  input : List UInt8 := []
  /-- There will be no more input. -/
  ended : Bool := true
  out : List UInt8 := []
  err : List UInt8 := []
  outTo : Sink := .out
  errTo : Sink := .err
  /-- The time in milliseconds since the start. -/
  clock : Nat := 0
  limit : Option Nat := none
  /-- The name of the script and its arguments. -/
  name : String := "sh"
  args : List String := []
  vars : List (String × String) := []
  /-- The status of the last command. -/
  last : Nat := 0

/-- How a program stops before its end. -/
inductive Halt where
  | exit (status : Nat)
  | waiting
  | late
  | killed
  /-- Leaves a loop, or goes on with its next round. -/
  | leave
  | again
deriving DecidableEq, Repr

/-- A computation on a machine. -/
abbrev Run := ExceptT Halt (StateM Machine)

namespace Machine

/-- The absolute path of a path. -/
def path (m : Machine) (p : String) : String := Files.join m.dir p

/-- Where all is lost that is written. -/
def nowhere : String := "/dev/null"

/-- Where a path leads as a stream. -/
def sink (m : Machine) (p : String) : Sink :=
  if m.path p = nowhere then .nothing else .file (m.path p)

/-- The content of a file, or why there is none. -/
def content (m : Machine) (p : String) : Except Files.FileError (List UInt8) :=
  if m.path p = nowhere then .ok []
  else if p.isEmpty then .error .notFound
  else m.tree.readBytes (m.path p)

/-- The machine with bytes written, and whether they could be. -/
def write (m : Machine) (sink : Sink) (bytes : List UInt8) : Bool × Machine :=
  match sink with
  | .out => (true, { m with out := bytes.reverse ++ m.out })
  | .err => (true, { m with err := bytes.reverse ++ m.err })
  | .nothing => (true, m)
  | .closed => (false, m)
  | .file path =>
    match m.tree.readBytes path with
    | .ok old =>
      match m.tree.writeBytes path (old ++ bytes) with
      | .ok tree => (true, { m with tree })
      | .error _ => (false, m)
    | .error _ => (false, m)

/-- The value of a variable. -/
def var (m : Machine) (name : String) : String := (m.vars.lookup name).getD ""

/-- Sets a variable. -/
def set (m : Machine) (name value : String) : Machine :=
  { m with vars := (name, value) :: m.vars.filter (·.1 ≠ name) }

end Machine

/-- Writes bytes to the output; the status says whether they could be written. -/
def say (bytes : List UInt8) : Run Nat := fun m =>
  let (written, m) := m.write m.outTo bytes
  (.ok (if written then 0 else 1), m)

/-- Writes a line to the output. -/
def sayLine (s : String) : Run Nat := say (Text.toBytes (s ++ "\n"))

/-- Writes a line to the stream of complaints. -/
def complain (s : String) : Run Unit := fun m =>
  (.ok (), (m.write m.errTo (Text.toBytes (s ++ "\n"))).2)

/-- Complains and fails. -/
def failWith (status : Nat) (s : String) : Run Nat := do
  complain s
  pure status

/-- Takes all the input there is. -/
def takeInput : Run (List UInt8) := fun m => (.ok m.input, { m with input := [] })

/-- Takes all the input there will ever be. -/
def allInput : Run (List UInt8) := do
  let bytes ← takeInput
  if (← get).ended then pure bytes else throw .waiting

/-- Takes a line without its line feed; the other result is whether there was one. -/
def takeLine : Run (List UInt8 × Bool) := do
  let m ← get
  let (line, rest) := m.input.span (· ≠ 10)
  match rest with
  | _ :: rest =>
    set { m with input := rest }
    pure (line, true)
  | [] =>
    if m.ended then
      set { m with input := [] }
      pure (line, false)
    else throw .waiting

/-- Lets time pass. -/
def wait (millis : Nat) : Run Unit := do
  let m ← get
  let clock := m.clock + millis
  match m.limit with
  | some limit => if limit < clock then throw .late else set { m with clock }
  | none => set { m with clock }

end Uplift.Shell
