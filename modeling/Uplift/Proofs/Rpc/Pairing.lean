import Uplift.Proofs.Rpc.Messages
import Uplift.Proofs.Rpc.Streams

/-!
# Requests and their answers

What a session makes of the messages that come in while it waits for answers. The peer may write
what it likes and when it likes: requests of its own, notifications, answers to requests that were
given up or that are still to come. All that is asked of it is that it writes whole messages, and
that these have the form of one (`Speaker`). The messages that are sent are spelled out
(`Exchange.sent`), and so are those that come in (`Incoming.SaidBy`).

* `Ends`: how the wait for one answer ends, told by the messages that are heard in it.
* `InStep`: of what the peer has written, some was heard and the rest is still to be read. Sending
  and waiting keep the two in step (`InStep.send`, `InStep.await`).
* `requestAll_paired`: requests that are made one after the other each get their own answer.
-/

namespace Uplift.Rpc

open Scan (ServerFault)

/-! ## Messages -/

namespace Incoming

/-- The message is an answer to the request with this number. -/
def Answers (m : Incoming) (number : Nat) : Prop := m.method = none ∧ m.id = some (.int number)

/-- What is sent back for a message: to a request, nothing but null under the request's own id. -/
def reply? (m : Incoming) : Option Value :=
  m.method.bind fun _ => m.id.map fun id =>
    .record [("jsonrpc", .str "2.0"), ("id", id), ("result", .null)]

/-- What an answer to a request comes to. -/
def outcome (method : String) (m : Incoming) : Except ServerFault Value :=
  match m.error with
  | some e => .error (.refused method e.code e.message)
  | none => .ok (m.result.getD .null)

variable {m : Incoming}

/-- No message answers two requests. -/
theorem Answers.number_eq {i j : Nat} (first : m.Answers i) (second : m.Answers j) : i = j := by
  have same : some (Value.int i) = some (Value.int j) := first.2.symm.trans second.2
  exact Int.ofNat.inj (Value.int.inj (Option.some.inj same))

end Incoming

/-- A message of the peer: how it is written, and what it says. -/
structure Utterance where
  frame : WrittenFrame
  said : Incoming
  spoken : said.SaidBy frame.message

/-- What the peer says is what a session understands. -/
theorem Utterance.understood (u : Utterance) : Incoming.decode u.frame.message = some u.said :=
  Incoming.decode_of_said u.spoken

/-- The bytes of messages one after the other. -/
def utteredBytes (us : List Utterance) : List UInt8 := us.flatMap fun u => u.frame.bytes

/-- A peer that writes whole messages: some at first, and some whenever it has read new bytes. -/
structure Speaker where
  greeting : List Utterance
  reply : (before new : List UInt8) → List Utterance

namespace Speaker

/-- The peer at the other end of a session. -/
def peer (p : Speaker) : Peer where
  greeting := utteredBytes p.greeting
  reply before new := utteredBytes (p.reply before new)

/-- What the peer writes to messages that are sent to it in order, after some bytes. -/
def replies (p : Speaker) (before : List UInt8) : (sent : List Value) → List Utterance
  | [] => []
  | message :: sent =>
    p.reply before (frame message) ++ p.replies (before ++ frame message) sent

/-- What the peer has said by the time that these messages were sent to it, in order. -/
def said (p : Speaker) (sent : List Value) : List Incoming :=
  (p.greeting ++ p.replies [] sent).map (·.said)

variable {p : Speaker}

theorem said_nil (p : Speaker) : p.said [] = p.greeting.map (·.said) := by
  simp [said, replies]

theorem replies_concat (before : List UInt8) (sent : List Value) (message : Value) :
    p.replies before (sent ++ [message]) =
      p.replies before sent ++ p.reply (before ++ frames sent) (frame message) := by
  induction sent generalizing before with
  | nil => simp [replies, frames]
  | cons first sent ih => simp [replies, ih, frames]

theorem said_concat (p : Speaker) (sent : List Value) (message : Value) :
    p.said (sent ++ [message]) =
      p.said sent ++ (p.reply (frames sent) (frame message)).map (·.said) := by
  rw [said, replies_concat, List.nil_append, ← List.append_assoc, List.map_append, ← said]

end Speaker

/-! ## One message -/

namespace Session

variable {p : Peer} {s : Session} {method : String} {number left : Nat} {u : Utterance}
  {rest : List UInt8}

/-- A request goes out with its number, its method and its parameters. -/
theorem request_eq (p : Peer) (s : Session) (method : String) (params : Value) :
    s.request p method params =
      await p method s.next 10000 { s.send p (.record [("jsonrpc", .str "2.0"),
        ("id", .int s.next), ("method", .str method), ("params", params)]) with
          next := s.next + 1 } := rfl

/-- The session after it has read a message that it does not wait for. -/
def hear (p : Peer) (s : Session) (m : Incoming) : Session :=
  match m.reply? with
  | some message => s.send p message
  | none => s

theorem receive_pending (pending : s.pending = u.frame.bytes ++ rest) :
    receive s.pending = (.ok u.frame.message, rest) := by
  rw [pending]
  exact u.frame.receive_bytes rest

/-- An answer to the request ends the wait. -/
theorem await_answer (pending : s.pending = u.frame.bytes ++ rest)
    (answers : u.said.Answers number) :
    s.await p method number (left + 1) =
      (u.said.outcome method, { s with pending := rest }) := by
  obtain ⟨noMethod, id⟩ := answers
  rw [await, receive_pending pending]
  simp only [u.understood, noMethod, id, if_true, Incoming.outcome]
  cases u.said.error <;> rfl

/-- After any other message the wait goes on, with one message less to look at. -/
theorem await_other (pending : s.pending = u.frame.bytes ++ rest)
    (other : ¬ u.said.Answers number) :
    s.await p method number (left + 1) =
      await p method number left (hear p { s with pending := rest } u.said) := by
  rw [await, receive_pending pending]
  simp only [u.understood]
  cases hasMethod : u.said.method with
  | some theirs =>
    -- A request of the peer is answered, whatever its id is; a notification is not.
    cases id : u.said.id <;> simp [hear, Incoming.reply?, hasMethod, id, nothingFor]
  | none =>
    have stale : u.said.id ≠ some (.int number) := fun id => other ⟨hasMethod, id⟩
    simp [hear, Incoming.reply?, hasMethod, stale]

end Session

/-! ## One wait -/

/-- How the wait for the answer to a request ends: `Ends limit number method heard unread result`
says that the messages `heard` are looked at, and those in `unread` that came in too are not. -/
inductive Ends (limit number : Nat) (method : String) :
    List Incoming → List Incoming → Except ServerFault Value → Prop
  /-- The first answer to the request is among the messages that may be looked at. -/
  | answered {skipped m unread} : (∀ x ∈ skipped, ¬ x.Answers number) → m.Answers number →
      skipped.length < limit →
      Ends limit number method (skipped ++ [m]) unread (m.outcome method)
  /-- As many messages as may be looked at are no answers. -/
  | exhausted {heard unread} : (∀ x ∈ heard, ¬ x.Answers number) → heard.length = limit →
      Ends limit number method heard unread (.error (.noResponse method 10000))
  /-- The peer says no more. -/
  | closed {heard} : (∀ x ∈ heard, ¬ x.Answers number) → heard.length < limit →
      Ends limit number method heard [] (.error .closed)

/-- A message before the answer is looked at and skipped. -/
theorem Ends.cons {limit number : Nat} {method : String} {heard unread : List Incoming}
    {result : Except ServerFault Value} {m : Incoming} (other : ¬ m.Answers number)
    (ends : Ends limit number method heard unread result) :
    Ends (limit + 1) number method (m :: heard) unread result := by
  cases ends with
  | answered skips answers few =>
    rw [← List.cons_append]
    refine .answered (List.forall_mem_cons.mpr ⟨other, skips⟩) answers ?_
    exact Nat.succ_lt_succ few
  | exhausted skips all =>
    refine .exhausted (List.forall_mem_cons.mpr ⟨other, skips⟩) ?_
    rw [List.length_cons, all]
  | closed skips few =>
    exact .closed (List.forall_mem_cons.mpr ⟨other, skips⟩) (Nat.succ_lt_succ few)

/-- A result that is returned is that of an answer to the request, and to no other. -/
theorem Ends.own_answer {limit number : Nat} {method : String} {heard unread : List Incoming}
    {result : Except ServerFault Value} {v : Value}
    (ends : Ends limit number method heard unread result) (returned : result = .ok v) :
    ∃ skipped m, heard = skipped ++ [m] ∧ m.Answers number ∧
      (∀ k, m.Answers k → k = number) ∧ v = m.result.getD .null := by
  cases ends with
  | @answered skipped m _ skips answers few =>
    refine ⟨skipped, m, rfl, answers, fun k other => other.number_eq answers, ?_⟩
    cases error : m.error with
    | some e => simp [Incoming.outcome, error] at returned
    | none =>
      rw [Incoming.outcome, error] at returned
      exact (Except.ok.inj returned).symm
  | exhausted => cases returned
  | closed => cases returned

/-- Some messages were sent, and nothing else was written. Of what the peer has said to them, some
was heard, and the rest is still to be read. -/
structure InStep (p : Speaker) (s : Session) (sent : List Value) (heard unread : List Incoming) :
    Prop where
  written : s.written = frames sent
  said : p.said sent = heard ++ unread
  pending : ∃ us : List Utterance, s.pending = utteredBytes us ∧ us.map (·.said) = unread

namespace InStep

variable {p : Speaker} {s : Session} {sent : List Value} {heard unread : List Incoming}
  {message : Value}

theorem start (p : Speaker) : InStep p (Session.start p.peer) [] [] (p.greeting.map (·.said)) where
  written := rfl
  said := p.said_nil
  pending := ⟨p.greeting, rfl, rfl⟩

/-- What the peer says to a message is still to be read. -/
theorem send (inStep : InStep p s sent heard unread) (message : Value) :
    InStep p (s.send p.peer message) (sent ++ [message]) heard
      (unread ++ (p.reply (frames sent) (frame message)).map (·.said)) := by
  obtain ⟨us, pending, same⟩ := inStep.pending
  constructor
  · rw [Session.written_send, inStep.written]
    simp [frames]
  · rw [p.said_concat, inStep.said, List.append_assoc]
  · refine ⟨us ++ p.reply (frames sent) (frame message), ?_, by rw [List.map_append, same]⟩
    show s.pending ++ utteredBytes (p.reply s.written (frame message)) = _
    rw [pending, inStep.written, utteredBytes, utteredBytes, utteredBytes, List.flatMap_append]

/-- The number of the next request has no part in it. -/
theorem renumber (inStep : InStep p s sent heard unread) (number : Nat) :
    InStep p { s with next := number } sent heard unread :=
  ⟨inStep.written, inStep.said, inStep.pending⟩

/-- The next message is read. -/
theorem read {u : Utterance} {us : List Utterance}
    (inStep : InStep p s sent heard ((u :: us).map (·.said))) :
    InStep p { s with pending := utteredBytes us } sent (heard ++ [u.said])
      (us.map (·.said)) where
  written := inStep.written
  said := by
    rw [inStep.said, List.append_assoc]
    rfl
  pending := ⟨us, rfl, rfl⟩

/-- A message that is not waited for may be answered, and nothing else is sent for it. -/
theorem hear (inStep : InStep p s sent heard unread) (m : Incoming) :
    ∃ unread', InStep p (s.hear p.peer m) (sent ++ m.reply?.toList) heard unread' ∧
      (s.hear p.peer m).next = s.next := by
  unfold Session.hear
  cases m.reply? with
  | none => exact ⟨unread, by rwa [Option.toList_none, List.append_nil], rfl⟩
  | some message => exact ⟨_, inStep.send message, rfl⟩

/-- Waiting for an answer keeps in step, and answers the requests that are heard in it. The
induction is on the number of messages that may still be looked at. -/
theorem await (inStep : InStep p s sent heard unread) (method : String) (number limit : Nat) :
    ∃ more unread',
      InStep p (s.await p.peer method number limit).2 (sent ++ more.filterMap Incoming.reply?)
        (heard ++ more) unread' ∧
      (s.await p.peer method number limit).2.next = s.next ∧
      Ends limit number method more unread' (s.await p.peer method number limit).1 := by
  induction limit generalizing s sent heard unread with
  | zero =>
    refine ⟨[], unread, ?_, rfl, .exhausted (by simp) rfl⟩
    rwa [List.filterMap_nil, List.append_nil, List.append_nil]
  | succ limit ih =>
    obtain ⟨us, pending, rfl⟩ := inStep.pending
    cases us with
    | nil =>
      have ended : s.await p.peer method number (limit + 1) = (.error .closed, s) := by
        have nothing : s.pending = [] := pending
        rw [Session.await, nothing, receive_nil, ← nothing]
      rw [ended]
      refine ⟨[], [], ?_, rfl, .closed (by simp) (Nat.succ_pos limit)⟩
      rwa [List.filterMap_nil, List.append_nil, List.append_nil]
    | cons u us =>
      have next : s.pending = u.frame.bytes ++ utteredBytes us := pending
      by_cases answers : u.said.Answers number
      · -- An answer is no request, so nothing is sent for it.
        have nothing : u.said.reply? = none := by simp [Incoming.reply?, answers.1]
        rw [Session.await_answer next answers]
        refine ⟨[u.said], us.map (·.said), ?_, rfl, ?_⟩
        · rw [List.filterMap_cons_none nothing, List.filterMap_nil, List.append_nil]
          exact inStep.read
        · show Ends _ _ _ ([] ++ [u.said]) _ _
          exact .answered (by simp) answers (Nat.succ_pos limit)
      · rw [Session.await_other next answers]
        obtain ⟨unread', heardOne, count⟩ := inStep.read.hear u.said
        obtain ⟨more, left, inStep', count', ends⟩ := ih heardOne
        refine ⟨u.said :: more, left, ?_, count'.trans count, ends.cons answers⟩
        have replies : (u.said :: more).filterMap Incoming.reply? =
            u.said.reply?.toList ++ more.filterMap Incoming.reply? := by
          cases replied : u.said.reply? <;> simp [replied]
        rwa [replies, ← List.append_assoc, ← List.singleton_append, ← List.append_assoc]

end InStep

/-! ## Requests one after the other -/

/-- A request that is to be made. -/
structure Call where
  method : String
  params : Value

/-- Makes requests one after the other, each when the wait for the one before it has ended. -/
def Session.requestAll (p : Peer) (s : Session) :
    List Call → List (Except ServerFault Value) × Session
  | [] => ([], s)
  | c :: rest =>
    let (result, s) := s.request p c.method c.params
    let (results, s) := requestAll p s rest
    (result :: results, s)

/-- A request that was made, the messages that were heard in the wait for its answer, and what came
of it. -/
structure Exchange where
  call : Call
  heard : List Incoming
  result : Except ServerFault Value

/-- What is sent in an exchange: the request under its number, and then an answer to each of the
peer's requests that were heard. -/
def Exchange.sent (e : Exchange) (number : Nat) : List Value :=
  .record [("jsonrpc", .str "2.0"), ("id", .int number), ("method", .str e.call.method),
    ("params", e.call.params)] :: e.heard.filterMap Incoming.reply?

/-- What is sent in exchanges, which are numbered from one. -/
def sentIn (es : List Exchange) : List Value := (es.zipIdx 1).flatMap fun (e, n) => e.sent n

/-- The messages that are heard in exchanges. -/
def heardIn (es : List Exchange) : List Incoming := es.flatMap (·.heard)

theorem sentIn_append (es : List Exchange) (e : Exchange) :
    sentIn (es ++ [e]) = sentIn es ++ e.sent (es.length + 1) := by
  simp [sentIn, List.zipIdx_append, Nat.add_comm]

theorem heardIn_append (es : List Exchange) (e : Exchange) :
    heardIn (es ++ [e]) = heardIn es ++ e.heard := by
  simp [heardIn]

/-- An exchange goes on where those before it have stopped: of what the peer has said since, its
messages come first, and they end the wait for the answer to this very request. -/
def Exchange.Follows (p : Speaker) (before : List Exchange) (e : Exchange) : Prop :=
  ∃ unread, p.said (sentIn (before ++ [e])) = heardIn (before ++ [e]) ++ unread ∧
    Ends 10000 (before.length + 1) e.call.method e.heard unread e.result

/-- The session after some exchanges. -/
structure After (p : Speaker) (s : Session) (es : List Exchange) : Prop where
  next : s.next = es.length + 1
  inStep : ∃ unread, InStep p s (sentIn es) (heardIn es) unread

namespace After

variable {p : Speaker} {s : Session} {done : List Exchange}

theorem start (p : Speaker) : After p (Session.start p.peer) [] := ⟨rfl, _, InStep.start p⟩

/-- A request is one exchange more. -/
theorem request (after : After p s done) (c : Call) :
    ∃ e : Exchange, e.call = c ∧ (s.request p.peer c.method c.params).1 = e.result ∧
      After p (s.request p.peer c.method c.params).2 (done ++ [e]) ∧ e.Follows p done := by
  obtain ⟨unread, inStep⟩ := after.inStep
  rw [Session.request_eq]
  obtain ⟨more, left, inStep', next, ends⟩ :=
    ((inStep.send _).renumber (s.next + 1)).await c.method s.next 10000
  refine ⟨⟨c, more, _⟩, rfl, rfl, ⟨?_, left, ?_⟩, left, ?_, ?_⟩
  · rw [List.length_append, List.length_singleton, ← after.next]
    exact next
  · rw [sentIn_append, heardIn_append, ← after.next]
    rwa [List.append_assoc] at inStep'
  · rw [sentIn_append, heardIn_append, ← after.next]
    have said := inStep'.said
    rwa [List.append_assoc] at said
  · rw [← after.next]
    exact ends

/-- Requests are as many exchanges more, each following those before it. -/
theorem requestAll (after : After p s done) (calls : List Call) :
    ∃ es : List Exchange, es.map (·.call) = calls ∧
      (s.requestAll p.peer calls).1 = es.map (·.result) ∧
      After p (s.requestAll p.peer calls).2 (done ++ es) ∧
      ∀ before e later, es = before ++ e :: later → e.Follows p (done ++ before) := by
  induction calls generalizing s done with
  | nil => exact ⟨[], rfl, rfl, by rwa [List.append_nil], by simp⟩
  | cons c calls ih =>
    obtain ⟨e, rfl, result, next, follows⟩ := after.request c
    obtain ⟨es, rfl, results, last, each⟩ := ih next
    refine ⟨e :: es, rfl, ?_, ?_, ?_⟩
    · rw [Session.requestAll, List.map_cons, ← result, ← results]
    · rw [List.append_assoc] at last
      exact last
    · intro before e' later split
      cases before with
      | nil =>
        obtain ⟨rfl, -⟩ := List.cons.inj split
        rwa [List.append_nil]
      | cons first before =>
        obtain ⟨rfl, rest⟩ := List.cons.inj split
        have further := each before e' later rest
        rwa [List.append_assoc] at further

end After

/-- **Every request gets its own answer.** Requests are made one after the other, and the peer says
whatever it likes meanwhile.

* The request at each place is sent under the number of its place. Besides, each request of the
  peer that is heard is answered once, with nothing, under its own id and in the order of hearing;
  nothing else is written.
* An exchange begins with the first message that those before it did not hear. It ends with the
  first answer to its own request, if that is among the messages that may be looked at, else after
  as many, or when the peer says no more.
* What an exchange returns is the result of an answer to its own request and to no other. -/
theorem requestAll_paired (p : Speaker) (calls : List Call) :
    ∃ es : List Exchange, es.map (·.call) = calls ∧
      ((Session.start p.peer).requestAll p.peer calls).1 = es.map (·.result) ∧
      ((Session.start p.peer).requestAll p.peer calls).2.written = frames (sentIn es) ∧
      (∃ unread, InStep p ((Session.start p.peer).requestAll p.peer calls).2 (sentIn es)
        (heardIn es) unread) ∧
      ∀ before e later, es = before ++ e :: later → e.Follows p before ∧
        ∀ v, e.result = .ok v →
          ∃ skipped m, e.heard = skipped ++ [m] ∧ m.Answers (before.length + 1) ∧
            (∀ k, m.Answers k → k = before.length + 1) ∧ v = m.result.getD .null := by
  obtain ⟨es, same, results, after, follows⟩ := (After.start p).requestAll calls
  obtain ⟨unread, inStep⟩ := after.inStep
  refine ⟨es, same, results, inStep.written, ⟨unread, inStep⟩, ?_⟩
  intro before e later split
  refine ⟨follows before e later split, fun v returned => ?_⟩
  obtain ⟨unread, -, ends⟩ := follows before e later split
  exact ends.own_answer returned

/-! ### A peer that interrupts

It asks something under the very number of the first request, which it then refuses; and to the
second request it answers the first one again. -/

section Sample

/-- A question of the peer. -/
def askedFields : List (String × Value) := [("id", .int 1), ("method", .str "ask")]

/-- A refusal of the first request. -/
def refusedFields : List (String × Value) :=
  [("error", .record [("code", .int (-32601)), ("message", .str "unknown")]), ("id", .int 1)]

/-- An answer to the first request. -/
def lateFields : List (String × Value) := [("id", .int 1), ("result", .bool true)]

/-- An answer to the second request, with no result. -/
def emptyItems : List Value := [.int 2]

theorem asked_readable : Readable (.record askedFields) :=
  .of_text (by decide +kernel) (by decide +kernel)

theorem refused_readable : Readable (.record refusedFields) :=
  .of_text (by decide +kernel) (by decide +kernel)

theorem late_readable : Readable (.record lateFields) :=
  .of_text (by decide +kernel) (by decide +kernel)

theorem empty_readable : Readable (.seq emptyItems) :=
  .of_text (by decide +kernel) (by decide +kernel)

theorem asked_spoken : Incoming.SaidBy ⟨some (.int 1), some "ask", none, none⟩
    (Value.record askedFields).sortKeys := by
  have sorted : (Value.record askedFields).sortKeys = .record askedFields := by decide +kernel
  rw [sorted]
  exact ⟨.object (by decide), by decide, by decide, by decide, .none⟩

theorem refused_spoken : Incoming.SaidBy ⟨some (.int 1), none, none, some ⟨-32601, "unknown"⟩⟩
    (Value.record refusedFields).sortKeys := by
  have sorted : (Value.record refusedFields).sortKeys = .record refusedFields := by decide +kernel
  rw [sorted]
  exact ⟨.object (by decide), by decide, by decide, by decide,
    .some ⟨.object (by decide), by decide, by decide, by decide⟩⟩

theorem late_spoken : Incoming.SaidBy ⟨some (.int 1), none, some (.bool true), none⟩
    (Value.record lateFields).sortKeys := by
  have sorted : (Value.record lateFields).sortKeys = .record lateFields := by decide +kernel
  rw [sorted]
  exact ⟨.object (by decide), by decide, by decide, by decide, .none⟩

theorem empty_spoken : Incoming.SaidBy ⟨some (.int 2), none, none, none⟩
    (Value.seq emptyItems).sortKeys :=
  ⟨.array (by decide), by decide, by decide, by decide, .none⟩

/-- The peer asks at first. When it has read a request, which it tells by its being the first that
it reads or not, it answers. -/
def interrupter : Speaker where
  greeting := [⟨.ofMessage _ asked_readable, _, asked_spoken⟩]
  reply before new :=
    if before = [] then [⟨.ofMessage _ refused_readable, _, refused_spoken⟩]
    else if new = frame (.record [("jsonrpc", .str "2.0"), ("id", .int 2), ("method", .str "list"),
      ("params", .null)]) then
      [⟨.ofMessage _ late_readable, _, late_spoken⟩, ⟨.ofMessage _ empty_readable, _, empty_spoken⟩]
    else []

/-- Two requests. -/
def findAndList : List Call := [⟨"find", .null⟩, ⟨"list", .null⟩]

/-- The question is answered with nothing, the refusal is that of the first request, and the second
request gets nothing although an answer to the first one comes before. -/
theorem requestAll_paired_interrupted :
    ∃ es : List Exchange, es.map (·.call) = findAndList ∧
      ((Session.start interrupter.peer).requestAll interrupter.peer findAndList).1 =
        es.map (·.result) ∧
      ((Session.start interrupter.peer).requestAll interrupter.peer findAndList).2.written =
        frames (sentIn es) ∧
      es.map (·.result) = [.error (.refused "find" (-32601) "unknown"), .ok .null] ∧
      frames (sentIn es) = frames [
        .record [("jsonrpc", .str "2.0"), ("id", .int 1), ("method", .str "find"),
          ("params", .null)],
        .record [("jsonrpc", .str "2.0"), ("id", .int 1), ("result", .null)],
        .record [("jsonrpc", .str "2.0"), ("id", .int 2), ("method", .str "list"),
          ("params", .null)]] := by
  obtain ⟨es, calls, results, written, -⟩ := requestAll_paired interrupter findAndList
  refine ⟨es, calls, results, written, ?_, ?_⟩
  · rw [← results]
    decide +kernel
  · rw [← written]
    decide +kernel

end Sample

end Uplift.Rpc
