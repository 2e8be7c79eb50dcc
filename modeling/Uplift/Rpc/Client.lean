import Uplift.Rpc.Session
/-! # Clients of symbol servers

A client starts a symbol server for a project, greets it, and then has it execute commands. When it
is done, it tells the server to stop and does not wait for an answer.

* `Client.start`, `Client.execute`, `Client.close`.
-/

namespace Uplift.Rpc

open Scan (ServerFault)

/-- A client, connected to a server. -/
structure Client where
  program : String
  peer : Peer
  session : Session

namespace Client

/-- What a server is told about the project at the beginning. -/
def greeting (processId : Nat) (root : String) (bundles : List String) : Value :=
  let uri := "file://" ++ root
  let name := (Files.fileName? root).getD "project"
  .record [("processId", .int processId), ("rootUri", .str uri), ("rootPath", .str root),
    ("capabilities", .record []),
    ("initializationOptions", .record [("bundles", .strings bundles)]),
    ("workspaceFolders", .seq [.record [("uri", .str uri), ("name", .str name)]])]

/-- Starts the server of a command line in the directory of a project, under the absolute path that
the project's path leads to. `launch` starts a program in a directory. -/
def start (launch : (dir program : String) → (args : List String) → Except String Peer)
    (processId : Nat) (command : List String) (t : Files.Tree) (root : String)
    (bundles : List String) : Except ScanError Client :=
  match command with
  | [] => .error (.server .noCommand)
  | program :: args =>
    match t.locate root with
    | .error e => .error (.read root e)
    | .ok place =>
      if (t.get? place).isNone then .error (.read root .notFound)
      else
        let dir := Files.Tree.pathOf place
        match launch dir program args with
        | .error cause => .error (.spawn program cause)
        | .ok peer =>
          match (Session.start peer).request peer "initialize" (greeting processId dir bundles) with
          | (.error e, _) => .error (.server e)
          | (.ok _, s) => .ok ⟨program, peer, s.notify peer "initialized" (.record [])⟩

/-- Has the server execute a command. -/
def execute (c : Client) (command : String) (arguments : List Value) :
    Except ServerFault Value × Client :=
  let params := Value.record [("command", .str command), ("arguments", .seq arguments)]
  let (answer, session) := c.session.request c.peer "workspace/executeCommand" params
  (answer, { c with session })

/-- Tells the server to stop. -/
def close (c : Client) : Session :=
  (c.session.sendRequest c.peer "shutdown" .null).notify c.peer "exit" .null

end Client

end Uplift.Rpc
