/-! # Comma-separated values

Records end with a line feed, fields with a comma. A field that begins with a quote goes on to the
next quote that is not doubled; what stands after it up to the next comma belongs to the field too.
A carriage return just before a line feed outside quotes counts for nothing.

* `Csv.parse?` fails only for a quote that is not closed.
* `Csv.parse?_nil`, `Csv.records?_lineFeed`: a text without characters has no records, and a line
  feed outside quotes ends one.
-/

namespace Uplift.Csv

/-- A record as it is read: its fields and the characters of the last field, both backwards. -/
structure Partial where
  fields : List String := []
  field : List Char := []

namespace Partial

/-- One character more. -/
def push (p : Partial) (c : Char) : Partial := { p with field := c :: p.field }

/-- The last field ends and another begins. -/
def next (p : Partial) : Partial := ⟨String.ofList p.field.reverse :: p.fields, []⟩

/-- The record. -/
def finish (p : Partial) : List String := p.next.fields.reverse

/-- Nothing was read. -/
def isEmpty (p : Partial) : Bool := p.field.isEmpty && p.fields.isEmpty

end Partial

/-- The records of a text, where the first of them was begun already, perhaps within quotes. -/
def records? (quoted : Bool) (p : Partial) : List Char → Option (List (List String))
  | [] => if quoted then none else some (if p.isEmpty then [] else [p.finish])
  | c :: rest =>
    if quoted then
      if c = '"' then
        match rest with
        | '"' :: rest => records? true (p.push '"') rest
        | rest => records? false p rest
      else records? true (p.push c) rest
    else if c = '"' && p.field.isEmpty then records? true p rest
    else if c = ',' then records? false p.next rest
    else if c = '\r' && rest.head? = some '\n' then records? false p rest
    else if c = '\n' then (records? false {} rest).map (p.finish :: ·)
    else records? false (p.push c) rest

/-- The records of a text, unless a quote is not closed. -/
def parse? (text : List Char) : Option (List (List String)) := records? false {} text

theorem parse?_nil : parse? [] = some [] := rfl

/-- A line feed outside quotes ends a record. -/
theorem records?_lineFeed (p : Partial) (rest : List Char) :
    records? false p ('\n' :: rest) = (records? false {} rest).map (p.finish :: ·) := by
  rw [records?.eq_def]
  simp

end Uplift.Csv
