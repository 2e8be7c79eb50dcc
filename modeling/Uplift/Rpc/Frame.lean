import Uplift.Json.Printer
import Uplift.Json.Reader
import Uplift.Scan.Error
import Uplift.Text.Lines
/-! # Framed messages

Messages to and from a symbol server are JSON documents, each after a block of headers that ends
with an empty line. One header announces how many bytes the document has; the others are not looked
at.

* `frame` writes a message, and `receive` reads one.
* `cutLine_append`: a line and what follows it are the bytes that were cut.
-/

namespace Uplift.Rpc

open Scan (ServerFault)

/-- The header that announces a length. -/
def lengthHeader : String := "content-length"

/-- A message with its headers. -/
def frame (message : Value) : List UInt8 :=
  let body := Text.toBytes (Json.compact message.sortKeys)
  Text.toBytes ("Content-Length: " ++ toString body.length ++ "\r\n\r\n") ++ body

/-- Messages one after the other. -/
def frames (messages : List Value) : List UInt8 := messages.flatMap frame

/-- The bytes up to the first line feed, with it, and the bytes after that. -/
def cutLine : List UInt8 → List UInt8 × List UInt8
  | [] => ([], [])
  | b :: rest => if b = 10 then ([b], rest) else (b :: (cutLine rest).1, (cutLine rest).2)

theorem cutLine_append (s : List UInt8) : (cutLine s).1 ++ (cutLine s).2 = s := by
  induction s with
  | nil => rfl
  | cons b rest ih =>
    by_cases h : b = 10
    · simp [cutLine, h]
    · simp [cutLine, h, ih]

theorem cutLine_shorter (b : UInt8) (rest : List UInt8) :
    (cutLine (b :: rest)).2.length < (b :: rest).length := by
  have whole := congrArg List.length (cutLine_append (b :: rest))
  have nonempty : 0 < (cutLine (b :: rest)).1.length := by
    by_cases h : b = 10 <;> simp [cutLine, h]
  simp only [List.length_append] at whole
  omega

/-- What a header line says about the length. -/
inductive Header where
  | blank
  | length (n : Nat)
  | malformed (line : String)
  | other
deriving DecidableEq, Repr

/-- A whole number of 64 bits, perhaps with a plus sign. -/
def number? (s : List Char) : Option Nat :=
  let ds := match s with
    | '+' :: ds => ds
    | ds => ds
  let n := ds.foldl (fun n c => n * 10 + (c.toNat - '0'.toNat)) 0
  if ds.isEmpty || !ds.all Char.isDigit || n ≥ Nat.pow 2 64 then none else some n

/-- Reads a header line. -/
def Header.parse (line : String) : Header :=
  let text := Text.trim line.toList
  if text.isEmpty then .blank
  else match Text.splitOnce ':' text with
    | some (name, value) =>
      if Text.sameAscii (String.ofList name) lengthHeader then
        match number? (Text.trim value) with
        | some n => .length n
        | none => .malformed (String.ofList text)
      else .other
    | none => .other

/-- Reads a block of headers, up to its empty line. Of several lengths, the last counts. -/
def headers (length : Option Nat) : List UInt8 → Except ServerFault (Option Nat) × List UInt8
  | [] => (.error .closed, [])
  | b :: rest =>
    let after := (cutLine (b :: rest)).2
    match Text.ofBytes? (cutLine (b :: rest)).1 with
    | none => (.error .streamNotUtf8, after)
    | some line =>
      match Header.parse line with
      | .blank => (.ok length, after)
      | .length n => headers (some n) after
      | .malformed text => (.error (.badHeader text), after)
      | .other => headers length after
termination_by s => s.length
decreasing_by all_goals exact cutLine_shorter b rest

/-- The greatest length that memory can be set aside for. -/
def maxLength : Nat := Nat.pow 2 63 - 1

/-- Reads a message, and gives what is left of the bytes. Memory for its announced length is set
aside before the bytes are there. -/
def receive (s : List UInt8) : Except ServerFault Value × List UInt8 :=
  match headers none s with
  | (.error e, rest) => (.error e, rest)
  | (.ok none, rest) => (.error .noLength, rest)
  | (.ok (some n), rest) =>
    if n > maxLength then (.error (.tooLong n), rest)
    else if rest.length < n then (.error .streamTooShort, [])
    else
      let message := (Text.ofBytes? (rest.take n)).bind Json.parse?
      match message with
      | some v => (.ok v.sortKeys, rest.drop n)
      | none => (.error .badMessage, rest.drop n)

end Uplift.Rpc
