import Uplift.Rpc.Frame
/-! # Sessions

A session sends requests under numbers that count up, and waits for the answer to each. What comes
in between is not lost on the server: its own requests are answered with nothing, and its
notifications and stale answers are skipped.

A session is over a pair of streams of bytes, and writing is taken to succeed.

* `Session.send` writes a message.
* `Session.request` sends a request and waits; `Session.notify` only sends.
-/

namespace Uplift.Rpc

open Scan (ServerFault)

/-- What is at the other end: the bytes that it writes at first, and those that it writes when it
has read new bytes, after those that it has read before. -/
structure Peer where
  greeting : List UInt8
  reply : (before new : List UInt8) → List UInt8

/-- A peer that writes the same whatever it reads. -/
def Peer.fixed (bytes : List UInt8) : Peer := ⟨bytes, fun _ _ => []⟩

/-- A session: the bytes that are not read yet, the bytes that were written, and the number of the
next request. -/
structure Session where
  pending : List UInt8
  written : List UInt8 := []
  next : Nat := 1

/-- An error in an answer. -/
structure Refusal where
  code : Int
  message : String

/-- A message that came in. -/
structure Incoming where
  id : Option Value
  method : Option String
  result : Option Value
  error : Option Refusal

/-- Reads an error. -/
def Refusal.decode : Decoder Refusal := fun v => do
  let r ← Record.of? .json ["code", "message"] v
  some ⟨← r.required "code" Decoder.int64, ← r.required "message" Decoder.text⟩

/-- Reads a message. -/
def Incoming.decode : Decoder Incoming := fun v => do
  let r ← Record.of? .json ["id", "method", "result", "error"] v
  some ⟨← r.optional "id" some, ← r.optional "method" Decoder.text,
    ← r.optional "result" some, ← r.optional "error" Refusal.decode⟩

/-- The answer to a request of the server. -/
def nothingFor (id : Value) : Value :=
  .record [("jsonrpc", .str "2.0"), ("id", id), ("result", .null)]

namespace Session

/-- The session with a peer, before anything is sent. -/
def start (p : Peer) : Session := { pending := p.greeting }

/-- Sends a message: writes the header that announces how long the document is, and then the
document. The peer reads both when they are written. -/
def send (p : Peer) (s : Session) (message : Value) : Session :=
  let document := Text.toBytes (Json.compact message.sortKeys)
  let header := Text.toBytes ("Content-Length: " ++ toString document.length ++ "\r\n\r\n")
  let new := header ++ document
  { s with written := s.written ++ new, pending := s.pending ++ p.reply s.written new }

/-- How many messages are looked at for an answer. -/
def maxMessages : Nat := 10000

/-- Waits for the answer to a request, looking at no more than `left` messages. -/
def await (p : Peer) (method : String) (id : Nat) :
    (left : Nat) → Session → Except ServerFault Value × Session
  | 0, s => (.error (.noResponse method maxMessages), s)
  | left + 1, s =>
    let (received, pending) := receive s.pending
    let s := { s with pending }
    match received with
    | .error e => (.error e, s)
    | .ok v =>
      match Incoming.decode v with
      | none => (.error .badMessage, s)
      | some m =>
        match m.method, m.id with
        -- The peer's own requests are answered with nothing, so that it does not wait for ever.
        | some _, some theirs => await p method id left (s.send p (nothingFor theirs))
        | some _, none => await p method id left s
        | none, theirs =>
          if theirs = some (.int id) then
            match m.error with
            | some e => (.error (.refused method e.code e.message), s)
            | none => (.ok (m.result.getD .null), s)
          else await p method id left s

/-- The message of a request. -/
def requestMessage (id : Nat) (method : String) (params : Value) : Value :=
  .record [("jsonrpc", .str "2.0"), ("id", .int id), ("method", .str method), ("params", params)]

/-- The message of a notification. -/
def notification (method : String) (params : Value) : Value :=
  .record [("jsonrpc", .str "2.0"), ("method", .str method), ("params", params)]

/-- Sends a request under the next number. -/
def sendRequest (p : Peer) (s : Session) (method : String) (params : Value) : Session :=
  { s.send p (requestMessage s.next method params) with next := s.next + 1 }

/-- Sends a request and waits for its answer. -/
def request (p : Peer) (s : Session) (method : String) (params : Value) :
    Except ServerFault Value × Session :=
  await p method s.next maxMessages (s.sendRequest p method params)

/-- Sends a notification. -/
def notify (p : Peer) (s : Session) (method : String) (params : Value) : Session :=
  s.send p (notification method params)

end Session

end Uplift.Rpc
