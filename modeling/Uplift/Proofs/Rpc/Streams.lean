import Uplift.Proofs.Rpc.Headers
import Uplift.Rpc.Session

/-!
# Streams of messages

A frame may be written in many ways: its headers are any block that announces the length of the
payload, and the payload any text of its message. Each frame is read as its message, and nothing of
what follows it is touched (`WrittenFrame.receive_bytes`), so a stream of frames is read as its
messages, one after the other (`receiveTimes_bytes`). The frames that this side writes are among
them (`WrittenFrame.bytes_ofMessage`), and they are what a session writes when it sends messages
(`Session.written_sends`); `receiveTimes_frames` says it for those.
-/

namespace Uplift.Rpc

open Text
open Scan (ServerFault)

/-! ## Frames as they are written -/

/-- The message that a payload spells. -/
def messageOf (payload : List UInt8) : Option Value :=
  ((ofBytes? payload).bind Json.parse?).map Value.sortKeys

/-- Headers, of which one announces a length. -/
structure HeaderBlock (n : Nat) where
  before : List OtherLine := []
  length : LengthLine n
  after : List OtherLine := []
  last : EmptyLine

/-- The bytes of a block, up to its empty line. -/
def HeaderBlock.bytes {n : Nat} (b : HeaderBlock n) : List UInt8 :=
  b.before.flatMap OtherLine.bytes ++
    (b.length.bytes ++ (b.after.flatMap OtherLine.bytes ++ b.last.bytes))

/-- A message with headers that announce its length. -/
structure WrittenFrame where
  payload : List UInt8
  headers : HeaderBlock payload.length
  message : Value
  spells : messageOf payload = some message
  fits : payload.length ≤ maxLength

/-- The bytes of a frame. -/
def WrittenFrame.bytes (f : WrittenFrame) : List UInt8 := f.headers.bytes ++ f.payload

/-- Headers that are not looked at change nothing. -/
theorem headers_others (ls : List OtherLine) (length : Option Nat) (rest : List UInt8) :
    headers length (ls.flatMap OtherLine.bytes ++ rest) = headers length rest := by
  induction ls with
  | nil => rfl
  | cons l ls ih => rw [List.flatMap_cons, List.append_assoc, l.headers_bytes, ih]

/-- Of a block of headers, the announced length is read, and the reading stops behind it. -/
theorem HeaderBlock.headers_bytes {n : Nat} (b : HeaderBlock n) (fits : n < Nat.pow 2 64)
    (rest : List UInt8) : headers none (b.bytes ++ rest) = (.ok (some n), rest) := by
  simp only [bytes, List.append_assoc]
  rw [headers_others, b.length.headers_bytes fits, headers_others, b.last.headers_bytes]

/-- A frame is read as its message, and what follows it is left as it is. -/
theorem WrittenFrame.receive_bytes (f : WrittenFrame) (rest : List UInt8) :
    receive (f.bytes ++ rest) = (.ok f.message, rest) := by
  have small : f.payload.length < Nat.pow 2 64 := Nat.lt_of_le_of_lt f.fits (by decide)
  have block := f.headers.headers_bytes small (f.payload ++ rest)
  rw [← List.append_assoc] at block
  obtain ⟨v, read, sorted⟩ := Option.map_eq_some_iff.mp f.spells
  have enough : ¬ (f.payload ++ rest).length < f.payload.length := by simp
  rw [receive, bytes, block]
  simp only [gt_iff_lt, Nat.not_lt.mpr f.fits, enough, if_false, List.take_left, List.drop_left,
    read, sorted]

/-! ## Streams -/

/-- What a number of readings give, one after the other. -/
def receiveTimes : Nat → List UInt8 → List (Except ServerFault Value)
  | 0, _ => []
  | n + 1, s => (receive s).1 :: receiveTimes n (receive s).2

theorem receive_nil : receive [] = (.error .closed, []) := by
  rw [receive, headers]

/-- A stream of frames is read as its messages, and then it is closed. -/
theorem receiveTimes_bytes (fs : List WrittenFrame) :
    receiveTimes (fs.length + 1) (fs.flatMap WrittenFrame.bytes) =
      fs.map (fun f => .ok f.message) ++ [.error .closed] := by
  induction fs with
  | nil => simp [receiveTimes, receive_nil]
  | cons f fs ih =>
    rw [List.length_cons, receiveTimes, List.flatMap_cons, f.receive_bytes, ih]
    rfl

/-! ## Frames of one's own -/

/-- The payload of a message. -/
def payloadOf (message : Value) : List UInt8 := toBytes (Json.compact message.sortKeys)

/-- A message can be read from its own text, and the text can be held in memory. The keys of a
message have no order of their own. -/
structure Readable (message : Value) : Prop where
  spelled : messageOf (payloadOf message) = some message.sortKeys
  fits : (payloadOf message).length ≤ maxLength

theorem Readable.of_text {message : Value}
    (parsed : (Json.parse? (Json.compact message.sortKeys)).map Value.sortKeys =
      some message.sortKeys)
    (fits : (payloadOf message).length ≤ maxLength) : Readable message := by
  refine ⟨?_, fits⟩
  rw [messageOf, payloadOf, ofBytes?_toBytes]
  exact parsed

/-- The frame of a message, as it is written. -/
def WrittenFrame.ofMessage (message : Value) (readable : Readable message) : WrittenFrame where
  payload := payloadOf message
  headers :=
    { length := { before := .space, ending := .carriageReturn }
      last := { ending := .carriageReturn } }
  message := message.sortKeys
  spells := readable.spelled
  fits := readable.fits

theorem WrittenFrame.bytes_ofMessage (message : Value) (readable : Readable message) :
    (ofMessage message readable).bytes = frame message := by
  have head (n : Nat) : "Content-Length: " ++ toString n ++ "\r\n\r\n" =
      String.ofList
          ("Content-Length".toList ++ ':' :: ' ' :: (Nat.toDigits 10 n ++ ['\r', '\n'])) ++
        String.ofList ['\r', '\n'] := by
    rw [← String.toList_inj]
    simp
  rw [frame, ← payloadOf, head, toBytes_append]
  simp [bytes, HeaderBlock.bytes, ofMessage, LengthLine.bytes, LengthLine.text, LengthLine.core,
    Numeral.text, Numeral.digits, Padding.none, Padding.space, EmptyLine.bytes, lineBytes,
    LineEnd.text]

/-- The stream of messages is a stream of frames. -/
theorem exists_written {messages : List Value} (readable : ∀ m ∈ messages, Readable m) :
    ∃ fs : List WrittenFrame, fs.flatMap WrittenFrame.bytes = frames messages ∧
      fs.map (·.message) = messages.map Value.sortKeys := by
  induction messages with
  | nil => exact ⟨[], rfl, rfl⟩
  | cons m messages ih =>
    simp only [List.forall_mem_cons] at readable
    obtain ⟨fs, bytes, texts⟩ := ih readable.2
    refine ⟨.ofMessage m readable.1 :: fs, ?_, ?_⟩
    · rw [List.flatMap_cons, bytes, WrittenFrame.bytes_ofMessage]
      rfl
    · rw [List.map_cons, texts]
      rfl

/-! ## Messages that are sent -/

/-- What is written for a message is its frame. -/
theorem Session.written_send (p : Peer) (s : Session) (message : Value) :
    (s.send p message).written = s.written ++ frame message := rfl

/-- What is written for messages is their frames, one after the other. -/
theorem Session.written_sends (p : Peer) (s : Session) (messages : List Value) :
    (messages.foldl (Session.send p) s).written = s.written ++ frames messages := by
  induction messages generalizing s with
  | nil => exact (List.append_nil s.written).symm
  | cons message messages ih =>
    calc (messages.foldl (Session.send p) (s.send p message)).written
        = (s.send p message).written ++ frames messages := ih (s.send p message)
      _ = s.written ++ frame message ++ frames messages := by rw [Session.written_send]
      _ = s.written ++ frames (message :: messages) := by
        rw [List.append_assoc, frames, frames, List.flatMap_cons]

/-- A stream of frames is read as their messages, and then it is closed. -/
theorem receiveTimes_ofMessages {messages : List Value}
    (readable : ∀ m ∈ messages, Readable m) :
    receiveTimes (messages.length + 1) (frames messages) =
      messages.map (fun m => .ok m.sortKeys) ++ [.error .closed] := by
  obtain ⟨fs, bytes, same⟩ := exists_written readable
  have count : fs.length = messages.length := by simpa using congrArg List.length same
  have results := congrArg (List.map fun v => (.ok v : Except ServerFault Value)) same
  rw [List.map_map, List.map_map] at results
  rw [← bytes, ← count, receiveTimes_bytes]
  exact congrArg (· ++ [.error .closed]) results

/-- **Messages are received as they were framed.**

* A stream of frames, as they are written here, is read as their messages, and then it is closed.
* The bytes that a session writes when it sends messages are those frames, after what was written
  before; so what is read from the bytes of a new session is the messages that were sent.
* Whatever headers a frame has besides the one that announces its length, it is read as its message,
  and what follows it is left as it is. -/
theorem receiveTimes_frames (messages : List Value) (readable : ∀ m ∈ messages, Readable m) :
    receiveTimes (messages.length + 1) (frames messages) =
        messages.map (fun m => .ok m.sortKeys) ++ [.error .closed] ∧
      ServerFault.closed.reason = "connection closed while reading headers" ∧
      (∀ (p : Peer) (s : Session),
        (messages.foldl (Session.send p) s).written = s.written ++ frames messages) ∧
      (∀ p : Peer, receiveTimes (messages.length + 1)
          (messages.foldl (Session.send p) (Session.start p)).written =
        messages.map (fun m => .ok m.sortKeys) ++ [.error .closed]) ∧
      (∀ (f : WrittenFrame) (rest : List UInt8),
        receive (f.bytes ++ rest) = (.ok f.message, rest)) ∧
      ∀ fs : List WrittenFrame, receiveTimes (fs.length + 1) (fs.flatMap WrittenFrame.bytes) =
        fs.map (fun f => .ok f.message) ++ [.error .closed] := by
  refine ⟨receiveTimes_ofMessages readable, rfl,
    fun p s => Session.written_sends p s messages, fun p => ?_, WrittenFrame.receive_bytes,
    receiveTimes_bytes⟩
  have fresh : (messages.foldl (Session.send p) (Session.start p)).written = frames messages :=
    Session.written_sends p (Session.start p) messages
  rw [fresh]
  exact receiveTimes_ofMessages readable

/-- A message whose text has bytes beyond ASCII and something like a header. -/
def sampleMessage : Value := .record [("name", .str "é"), ("id", .str "Content-Length: 5\r\n\r\n")]

theorem sampleMessage_readable : Readable sampleMessage :=
  .of_text (by decide +kernel) (by decide +kernel)

/-- A header that is not looked at. -/
def sampleHeader : OtherLine where
  text := "Content-Type: text".toList
  ending := .lineFeed
  oneLine := by decide +kernel
  filled := by decide +kernel
  other name value same noColon := by
    have split := splitOnce_append (b := value) noColon
    have parts : splitOnce ':' (trim "Content-Type: text".toList) =
        some ("Content-Type".toList, " text".toList) := by decide +kernel
    rw [← same, parts] at split
    obtain ⟨rfl, -⟩ := Prod.mk.inj (Option.some.inj split)
    decide +kernel

/-- A frame with headers around the one that announces the length, each ended in its own way. -/
def sampleFrame : WrittenFrame where
  payload := [91, 49, 93]
  headers :=
    { before := [sampleHeader]
      length :=
        { name := "content-LENGTH".toList, named := by decide +kernel
          numeral := { plus := true, zeros := 2 }
          after := .space, ending := .lineFeed }
      after := [sampleHeader]
      last := { ending := .carriageReturn } }
  message := .seq [.int 1]
  spells := by decide +kernel
  fits := by decide +kernel

theorem receiveTimes_frames_sample : Readable sampleMessage ∧
    receiveTimes 2 (frames [sampleMessage]) = [.ok sampleMessage.sortKeys, .error .closed] ∧
    receiveTimes 2 ((Session.start (.fixed [])).send (.fixed []) sampleMessage).written =
      [.ok sampleMessage.sortKeys, .error .closed] ∧
    receive (sampleFrame.bytes ++ frame sampleMessage) =
      (.ok (.seq [.int 1]), frame sampleMessage) := by
  have readable : ∀ m ∈ [sampleMessage], Readable m := by
    simpa using sampleMessage_readable
  obtain ⟨stream, -, -, sent, one, -⟩ := receiveTimes_frames [sampleMessage] readable
  exact ⟨sampleMessage_readable, stream, sent (.fixed []), one sampleFrame (frame sampleMessage)⟩

end Uplift.Rpc
