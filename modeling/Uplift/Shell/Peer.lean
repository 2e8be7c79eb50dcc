import Uplift.Rpc.Session
import Uplift.Shell.Launch
/-! # Started programs as peers

A program whose input is a stream of messages, and whose output is read as one.
-/

namespace Uplift.Shell

/-- The peer that a started program is: with more input it writes what it did not write before. -/
def Started.peer (s : Started) : Rpc.Peer where
  greeting := s.written [] false
  reply before new := (s.written (before ++ new) false).drop (s.written before false).length

/-- Starts a program as a peer. -/
def launch (t : Files.Tree) (dir program : String) (args : List String) : Except String Rpc.Peer :=
  match start t dir program args with
  | .ok s => .ok s.peer
  | .error r => .error r.message

end Uplift.Shell
