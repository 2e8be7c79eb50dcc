import Uplift.Proofs.Rpc.Streams

/-!
# Every stream of bytes, as a message is read from it

What a reading ends with, for whatever bytes are offered. A block of headers is read line by line up
to an empty one or to the first fault (`Block`), and the last length that it announces decides the
rest (`Received`). Both relations are the functions of the model, told by what is in the bytes
(`Block.headers_eq` and `exists_block`, `receive_eq_iff`).

A reading gives a message or reports a fault, with one exception: a length beyond `maxLength` is
accepted as a header, and memory is set aside for it before the stream is looked at
(`receive_reported`). For smaller lengths memory is taken to be there.
-/

namespace Uplift.Rpc

open Text
open Scan (ServerFault)

/-! ## Lines of any bytes -/

/-- A line and what follows it: a line ends with its only line feed, or it is the last one. -/
inductive IsLine : List UInt8 → List UInt8 → Prop
  | ended {front rest} : 10 ∉ front → IsLine (front ++ [10]) rest
  | last {line} : line ≠ [] → 10 ∉ line → IsLine line []

section Lines

variable {line rest s : List UInt8}

theorem cutLine_of_not_mem (noLineFeed : 10 ∉ s) : cutLine s = (s, []) := by
  induction s with
  | nil => rfl
  | cons b s ih =>
    simp only [List.mem_cons, not_or] at noLineFeed
    simp [cutLine, Ne.symm noLineFeed.1, ih noLineFeed.2]

theorem IsLine.cutLine_eq (isLine : IsLine line rest) : cutLine (line ++ rest) = (line, rest) := by
  cases isLine with
  | ended noLineFeed =>
    rw [List.append_assoc, List.singleton_append, cutLine_append_lineFeed noLineFeed]
  | last _ noLineFeed => rw [List.append_nil, cutLine_of_not_mem noLineFeed]

theorem IsLine.ne_nil (isLine : IsLine line rest) : line ≠ [] := by
  cases isLine with
  | ended _ => simp
  | last filled _ => exact filled

/-- Where there are bytes, there is a line. -/
theorem isLine_cutLine (filled : s ≠ []) : IsLine (cutLine s).1 (cutLine s).2 := by
  by_cases lineFeed : 10 ∈ s
  · obtain ⟨front, rest, rfl, noLineFeed⟩ := List.eq_append_cons_of_mem lineFeed
    rw [cutLine_append_lineFeed noLineFeed]
    exact .ended noLineFeed
  · rw [cutLine_of_not_mem lineFeed]
    exact .last filled lineFeed

/-- What the first line of some bytes says decides what is read next. -/
theorem IsLine.headers_eq (isLine : IsLine line rest) (length : Option Nat) :
    headers length (line ++ rest) =
      match ofBytes? line with
      | none => (.error .streamNotUtf8, rest)
      | some text =>
        match Header.parse text with
        | .blank => (.ok length, rest)
        | .length n => headers (some n) rest
        | .malformed header => (.error (.badHeader header), rest)
        | .other => headers length rest := by
  have filled : line ++ rest ≠ [] := by simp [isLine.ne_nil]
  obtain ⟨b, tail, split⟩ := List.exists_cons_of_ne_nil filled
  have cut : cutLine (b :: tail) = (line, rest) := split ▸ isLine.cutLine_eq
  rw [split, headers]
  cases read : ofBytes? line with
  | none => simp only [cut, read]
  | some text => cases said : Header.parse text <;> simp only [cut, read, said]

end Lines

/-! ## Blocks of headers -/

/-- `Block s lengths ending rest`: the bytes `s` are read as headers up to an empty line or to the
first fault, which is the `ending`. On the way they announce the `lengths`, one after the other, and
`rest` is not read yet. -/
inductive Block : List UInt8 → List Nat → Except ServerFault Unit → List UInt8 → Prop
  | closed : Block [] [] (.error .closed) []
  | notUtf8 {line rest} : IsLine line rest → ofBytes? line = none →
      Block (line ++ rest) [] (.error .streamNotUtf8) rest
  | malformed {line rest text header} : IsLine line rest → ofBytes? line = some text →
      Header.parse text = .malformed header →
      Block (line ++ rest) [] (.error (.badHeader header)) rest
  | blank {line rest text} : IsLine line rest → ofBytes? line = some text →
      Header.parse text = .blank → Block (line ++ rest) [] (.ok ()) rest
  | length {line after rest text n lengths ending} : IsLine line after →
      ofBytes? line = some text → Header.parse text = .length n →
      Block after lengths ending rest → Block (line ++ after) (n :: lengths) ending rest
  | other {line after rest text lengths ending} : IsLine line after →
      ofBytes? line = some text → Header.parse text = .other →
      Block after lengths ending rest → Block (line ++ after) lengths ending rest

section Blocks

variable {s rest : List UInt8} {lengths : List Nat} {ending : Except ServerFault Unit} {n : Nat}

/-- Of a block, the last length is read. -/
theorem Block.headers_eq (block : Block s lengths ending rest) (length : Option Nat) :
    headers length s = (ending.map fun _ => lengths.getLast?.or length, rest) := by
  induction block generalizing length with
  | closed =>
    rw [headers]
    rfl
  | notUtf8 isLine read =>
    simp only [isLine.headers_eq, read]
    rfl
  | malformed isLine read said | blank isLine read said =>
    simp only [isLine.headers_eq, read, said]
    rfl
  | length isLine read said _ ih =>
    simp only [isLine.headers_eq, read, said]
    rw [ih, List.getLast?_cons]
    simp
  | other isLine read said _ ih =>
    simp only [isLine.headers_eq, read, said]
    exact ih length

/-- A number that is read has 64 bits. -/
theorem lt_of_number? {digits : List Char} (read : number? digits = some n) :
    n < Nat.pow 2 64 := by
  simp only [number?, Option.ite_none_left_eq_some, Bool.or_eq_true, decide_eq_true_eq, not_or,
    Option.some.injEq] at read
  obtain ⟨⟨-, small⟩, value⟩ := read
  exact value ▸ Nat.lt_of_not_le small

theorem lt_of_parse {line : String} (said : Header.parse line = .length n) :
    n < Nat.pow 2 64 := by
  simp only [Header.parse] at said
  split at said
  · cases said
  · split at said
    · next name value _ =>
      cases read : number? (trim value) with
      | none => simp only [read] at said; split at said <;> cases said
      | some m =>
        simp only [read] at said
        split at said
        · obtain rfl := Header.length.inj said
          exact lt_of_number? read
        · cases said
    · cases said

/-- Whatever the bytes are, they are a block. -/
theorem exists_block (s : List UInt8) : ∃ lengths ending rest, Block s lengths ending rest := by
  induction size : s.length using Nat.strong_induction_on generalizing s with
  | h size ih =>
    subst size
    cases s with
    | nil => exact ⟨[], _, _, .closed⟩
    | cons b tail =>
      have isLine := isLine_cutLine (List.cons_ne_nil b tail)
      obtain ⟨lengths, ending, rest, block⟩ := ih _ (cutLine_shorter b tail) _ rfl
      rw [← cutLine_append (b :: tail)]
      cases read : ofBytes? (cutLine (b :: tail)).1 with
      | none => exact ⟨_, _, _, .notUtf8 isLine read⟩
      | some text =>
        cases said : Header.parse text with
        | blank => exact ⟨_, _, _, .blank isLine read said⟩
        | length n => exact ⟨_, _, _, .length isLine read said block⟩
        | malformed header => exact ⟨_, _, _, .malformed isLine read said⟩
        | other => exact ⟨_, _, _, .other isLine read said block⟩

/-- A length that is announced has 64 bits. -/
theorem Block.length_lt (block : Block s lengths ending rest) (announced : n ∈ lengths) :
    n < Nat.pow 2 64 := by
  induction block with
  | closed | notUtf8 | malformed | blank => cases announced
  | length _ _ said _ ih =>
    rcases List.mem_cons.mp announced with rfl | later
    · exact lt_of_parse said
    · exact ih later
  | other _ _ _ _ ih => exact ih announced

end Blocks

/-! ## Messages -/

/-- `Received s result rest`: from the bytes `s`, a reading of a message gives the `result`, and
`rest` is left. -/
inductive Received (s : List UInt8) : Except ServerFault Value → List UInt8 → Prop
  | faulty {lengths e rest} : Block s lengths (.error e) rest → Received s (.error e) rest
  | noLength {rest} : Block s [] (.ok ()) rest → Received s (.error .noLength) rest
  | tooLong {lengths rest n} : Block s lengths (.ok ()) rest → lengths.getLast? = some n →
      maxLength < n → Received s (.error (.tooLong n)) rest
  | tooShort {lengths after n} : Block s lengths (.ok ()) after → lengths.getLast? = some n →
      n ≤ maxLength → after.length < n → Received s (.error .streamTooShort) []
  | badMessage {lengths payload rest} : Block s lengths (.ok ()) (payload ++ rest) →
      lengths.getLast? = some payload.length → payload.length ≤ maxLength →
      messageOf payload = none → Received s (.error .badMessage) rest
  | message {lengths payload rest v} : Block s lengths (.ok ()) (payload ++ rest) →
      lengths.getLast? = some payload.length → payload.length ≤ maxLength →
      messageOf payload = some v → Received s (.ok v) rest

/-- The faults of a stream that a reading reports. -/
inductive Reported : ServerFault → Prop
  | closed : Reported .closed
  | notUtf8 : Reported .streamNotUtf8
  | badHeader (header : String) : Reported (.badHeader header)
  | noLength : Reported .noLength
  | tooShort : Reported .streamTooShort
  | badMessage : Reported .badMessage

section Messages

variable {s rest : List UInt8} {lengths : List Nat} {e : ServerFault}
  {result : Except ServerFault Value}

theorem Block.reported {ending : Except ServerFault Unit}
    (block : Block s lengths ending rest) (faulty : ending = .error e) : Reported e := by
  induction block with
  | closed => cases faulty; exact .closed
  | notUtf8 => cases faulty; exact .notUtf8
  | malformed => cases faulty; exact .badHeader _
  | blank => cases faulty
  | length _ _ _ _ ih | other _ _ _ _ ih => exact ih faulty

/-- What the announced bytes spell is the message. -/
theorem Block.receive_payload {payload : List UInt8}
    (block : Block s lengths (.ok ()) (payload ++ rest))
    (announced : lengths.getLast? = some payload.length) (fits : payload.length ≤ maxLength) :
    receive s = ((messageOf payload).elim (.error .badMessage) .ok, rest) := by
  have enough : ¬ (payload ++ rest).length < payload.length := by simp
  simp only [receive, block.headers_eq, announced, Except.map, Option.some_or, messageOf]
  rw [if_neg (Nat.not_lt.mpr fits), if_neg enough, List.take_left, List.drop_left]
  cases (ofBytes? payload).bind Json.parse? <;> rfl

theorem Received.receive_eq (received : Received s result rest) : receive s = (result, rest) := by
  cases received with
  | faulty block | noLength block =>
    rw [receive, block.headers_eq]
    rfl
  | tooLong block announced great =>
    simp only [receive, block.headers_eq, announced, Except.map, Option.some_or]
    rw [if_pos great]
  | tooShort block announced fits short =>
    simp only [receive, block.headers_eq, announced, Except.map, Option.some_or]
    rw [if_neg (Nat.not_lt.mpr fits), if_pos short]
  | badMessage block announced fits spelled | message block announced fits spelled =>
    rw [block.receive_payload announced fits, spelled]
    rfl

/-- Every reading of a message is one of those. -/
theorem exists_received (s : List UInt8) : ∃ result rest, Received s result rest := by
  obtain ⟨lengths, ending, after, block⟩ := exists_block s
  cases ending with
  | error e => exact ⟨_, _, .faulty block⟩
  | ok =>
    cases announced : lengths.getLast? with
    | none =>
      rw [List.getLast?_eq_none_iff.mp announced] at block
      exact ⟨_, _, .noLength block⟩
    | some n =>
      rcases Nat.lt_or_ge maxLength n with great | fits
      · exact ⟨_, _, .tooLong block announced great⟩
      rcases Nat.lt_or_ge after.length n with short | enough
      · exact ⟨_, _, .tooShort block announced fits short⟩
      have size : (after.take n).length = n := List.length_take_of_le enough
      rw [← List.take_append_drop n after] at block
      rw [← size] at announced fits
      cases spelled : messageOf (after.take n) with
      | none => exact ⟨_, _, .badMessage block announced fits spelled⟩
      | some v => exact ⟨_, _, .message block announced fits spelled⟩

theorem receive_eq_iff : receive s = (result, rest) ↔ Received s result rest := by
  refine ⟨fun read => ?_, Received.receive_eq⟩
  obtain ⟨result', rest', received⟩ := exists_received s
  obtain ⟨rfl, rfl⟩ := Prod.mk.inj (read.symm.trans received.receive_eq)
  exact received

/-- What is announced beyond the memory is no fault that is reported. -/
theorem tooLong_iff {n : Nat} : Received s (.error (.tooLong n)) rest ↔
    maxLength < n ∧ ∃ lengths, Block s lengths (.ok ()) rest ∧ lengths.getLast? = some n := by
  constructor
  · intro received
    cases received with
    | faulty block => cases block.reported rfl
    | tooLong block announced great => exact ⟨great, _, block, announced⟩
  · rintro ⟨great, lengths, block, announced⟩
    exact .tooLong block announced great

end Messages

/-- From every stream of bytes, a message is read, or a fault of the stream is reported, or the
headers announce a length that memory cannot be set aside for. Only the headers decide whether they
do, and not the bytes that are there; the length has 64 bits. This last outcome is not an error that
a caller sees: the program breaks off. Every way to write headers with such a length, whatever
follows them, ends so. -/
theorem receive_reported (s : List UInt8) :
    (∀ result rest, receive s = (result, rest) ↔ Received s result rest) ∧
      ((∃ v, (receive s).1 = .ok v) ∨ (∃ e, (receive s).1 = .error e ∧ Reported e) ∨
        ∃ n, (receive s).1 = .error (.tooLong n)) ∧
      (∀ n, (receive s).1 = .error (.tooLong n) ↔ maxLength < n ∧ n < Nat.pow 2 64 ∧
        ∃ lengths rest, Block s lengths (.ok ()) rest ∧ lengths.getLast? = some n) ∧
      ∀ n (b : HeaderBlock n) (rest : List UInt8), maxLength < n → n < Nat.pow 2 64 →
        receive (b.bytes ++ rest) = (.error (.tooLong n), rest) := by
  refine ⟨fun result rest => receive_eq_iff, ?_, fun n => ⟨fun failed => ?_, ?_⟩, ?_⟩
  · obtain ⟨result, rest, received⟩ := exists_received s
    rw [received.receive_eq]
    cases received with
    | faulty block => exact .inr (.inl ⟨_, rfl, block.reported rfl⟩)
    | noLength => exact .inr (.inl ⟨_, rfl, .noLength⟩)
    | tooLong => exact .inr (.inr ⟨_, rfl⟩)
    | tooShort => exact .inr (.inl ⟨_, rfl, .tooShort⟩)
    | badMessage => exact .inr (.inl ⟨_, rfl, .badMessage⟩)
    | message => exact .inl ⟨_, rfl⟩
  · have received : Received s (.error (.tooLong n)) (receive s).2 :=
      receive_eq_iff.mp (Prod.ext failed rfl)
    obtain ⟨great, lengths, block, announced⟩ := tooLong_iff.mp received
    exact ⟨great, block.length_lt (List.mem_of_getLast? announced), lengths, _, block, announced⟩
  · rintro ⟨great, -, lengths, rest, block, announced⟩
    rw [(Received.tooLong block announced great).receive_eq]
  · intro n b rest great fits
    rw [receive, b.headers_bytes fits]
    exact if_pos great

theorem sameAscii_contentLength :
    sameAscii (String.ofList "Content-Length".toList) lengthHeader = true := by decide

/-- The greatest length that a header can announce. -/
def greatestHeaders : HeaderBlock 18446744073709551615 where
  length :=
    { named := sameAscii_contentLength
      before := .space, ending := .carriageReturn }
  last := { ending := .carriageReturn }

theorem receive_reported_sample :
    greatestHeaders.bytes = toBytes "Content-Length: 18446744073709551615\r\n\r\n" ∧
      receive greatestHeaders.bytes = (.error (.tooLong 18446744073709551615), []) := by
  refine ⟨by decide +kernel, ?_⟩
  obtain ⟨-, -, -, written⟩ := receive_reported []
  have broken := written _ greatestHeaders [] (by decide) (by decide)
  rwa [List.append_nil] at broken

end Uplift.Rpc
