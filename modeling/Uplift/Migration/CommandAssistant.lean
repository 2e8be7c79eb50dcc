import Uplift.Json.Printer
import Uplift.Json.Reader
import Uplift.Migration.Provider
import Uplift.Shell.Launch
/-! # Assistants that are programs

An assistant can be a program that is started for each request: the request is one line of JSON on
its input, and the reply is the first line of its output.
-/

namespace Uplift.Migration.CommandAssistant

/-- The input of a request. -/
def payload (q : ChatRequest) : String := Json.compact q.encode ++ "\n"

/-- The first line of an output, if there is one. -/
def firstLine (output : List UInt8) : Option (List UInt8) := (Text.byteLines output).head?

/-- The reply that an output holds. -/
def replyOf (program : String) (output : List UInt8) : Except ProviderError Reply :=
  match firstLine output with
  | none => .error (.assistant .silent)
  | some bytes =>
    match Text.ofBytes? bytes with
    | none => .error (.spawn program Files.FileError.notUtf8.message)
    | some line =>
      match (Json.parse? line).bind Reply.decode with
      | some reply => .ok reply
      | none => .error (.assistant (.unexpected line))

/-- Asks the program of a command line, in a directory. -/
def ask (command : List String) (dir : String) (q : ChatRequest) (t : Files.Tree) :
    Except ProviderError Reply × Files.Tree :=
  match command with
  | [] => (.error (.assistant .noCommand), t)
  | program :: args =>
    match Shell.start t dir program args with
    | .error r => (.error (.spawn program r.message), t)
    | .ok s =>
      let input := Text.toBytes (payload q)
      (replyOf program (s.written input true), s.treeAfter input)

end Uplift.Migration.CommandAssistant
