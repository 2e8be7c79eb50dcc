import Uplift.Process.Command
import Uplift.Shell.Eval
/-! # Starting programs

A program is started in a directory of a file tree. It is a function of its input from then on: what
it has written, and what has become of the files.

* `start` finds the program; `Started.after` lets it run on some input.
* `run` runs a command to its end, without input.
-/

namespace Uplift.Shell

/-- A program that was started. -/
structure Started where
  program : String
  args : List String
  machine : Machine

/-- Starts a program in a directory. -/
def start (t : Files.Tree) (dir program : String) (args : List String) : Except Refusal Started :=
  match t.locate dir with
  | .error e => .error (.file e)
  | .ok place =>
    match t.get? place with
    | none => .error (.file .notFound)
    | some .dir =>
      let m : Machine := { tree := t, dir := Files.Tree.pathOf place, name := program }
      match lookUp m program args with
      | .ok (program, args) => .ok ⟨program, args, m⟩
      | .error r => .error r
    | some _ => .error (.file .notDirectory)

namespace Started

/-- How the program stands after some input, where `ended` says that no more will come. -/
def after (s : Started) (input : List UInt8) (ended : Bool) (limit : Option Nat) :
    Except Halt Nat × Machine :=
  call fuel s.program s.args { s.machine with input, ended, limit }

/-- What the program has written after some input. -/
def written (s : Started) (input : List UInt8) (ended : Bool) : List UInt8 :=
  (s.after input ended none).2.out.reverse

/-- The files that the program leaves behind. -/
def treeAfter (s : Started) (input : List UInt8) : Files.Tree := (s.after input true none).2.tree

end Started

/-- The bytes up to the last line feed. -/
def upToLineFeed (bytes : List UInt8) : List UInt8 := (bytes.reverse.dropWhile (· ≠ 10)).reverse

/-- Runs a command without input, and gives the lines of its output and then those of its
complaints. -/
def run (c : Command) (t : Files.Tree) : Except RunFailure Finished × Files.Tree :=
  match start t c.workingDir c.program c.args with
  | .error r => (.error (.spawn r.message), t)
  | .ok s =>
    let (result, m) := s.after [] true (some c.timeoutMillis)
    let out := m.out.reverse
    let err := m.err.reverse
    let finished (status : Int) : Finished := ⟨status, Text.textLines out ++ Text.textLines err⟩
    let ended := match result with
      | .ok status | .error (.exit status) => .ok (finished status)
      | .error .killed => .ok (finished (-1))
      | .error .leave | .error .again => .ok (finished 0)
      | .error .late | .error .waiting =>
        .error (.timeout (Text.textLines (upToLineFeed out) ++ Text.textLines (upToLineFeed err)))
    (ended, m.tree)

end Uplift.Shell
