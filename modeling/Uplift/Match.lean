import Uplift.Coordinate
import Uplift.Kind
import Uplift.Value.Decode
/-! # Matches

What a scanner found, and where. A sentinel is a match that stands for a part of a query which names
no dependency; it is no finding.
-/

namespace Uplift

/-- A symbol that a symbol server reported. -/
structure SymbolMatch where
  name : String
  kind : Nat
  uri : String
  line : Nat
  container : Option String
deriving DecidableEq, Repr

/-- A row of a data table, under the id of the search that wrote it. -/
structure TableRow where
  matchId : String
  columns : List (String × String)
deriving DecidableEq, Repr

/-- The value in the first column with this header. -/
def TableRow.column? (r : TableRow) (header : String) : Option String := r.columns.lookup header

/-- A place in a file. Lines and columns count from one; a file as a whole is at zero. -/
structure Location where
  path : String
  line : Nat
  column : Nat
  text : String
deriving DecidableEq, Repr

/-- What was found. -/
inductive Finding where
  | symbol (s : SymbolMatch)
  | row (r : TableRow)
  | dependency (c : Coordinate)
  | location (l : Location)
deriving DecidableEq, Repr

/-- A finding, with its source and the scanner that reported it. -/
structure Match where
  source : String
  scanner : ScannerKind
  finding : Finding
deriving DecidableEq, Repr

namespace Match

/-- The match that stands for a part of a query which names no dependency. -/
def sentinel (source : String) : Match := ⟨source, .maven, .dependency .empty⟩

/-- The match is no finding. -/
def isSentinel (m : Match) : Bool :=
  match m.finding with
  | .dependency c => c.isEmpty
  | _ => false

end Match

namespace Coordinate

/-- A coordinate's fields as they are written in a document. -/
def fields (c : Coordinate) : List (String × Value) :=
  [("groupId", .str c.group), ("artifactId", .str c.artifact)] ++
    (match c.version with
      | some v => [("version", Value.str v)]
      | none => [])

/-- Reads a coordinate. -/
def decode : Decoder Coordinate := fun v => do
  let r ← Record.of? .json ["groupId", "artifactId", "version"] v
  some ⟨← r.required "groupId" Decoder.text, ← r.required "artifactId" Decoder.text,
    ← r.optional "version" Decoder.text⟩

end Coordinate

namespace SymbolMatch

/-- A symbol's fields as they are written in a document. -/
def fields (s : SymbolMatch) : List (String × Value) :=
  [("name", .str s.name), ("kind", .int s.kind), ("uri", .str s.uri), ("line", .int s.line)] ++
    (match s.container with
      | some c => [("container", Value.str c)]
      | none => [])

/-- Reads a symbol. -/
def decode : Decoder SymbolMatch := fun v => do
  let r ← Record.of? .json ["name", "kind", "uri", "line", "container"] v
  some ⟨← r.required "name" Decoder.text, ← r.required "kind" Decoder.nat32,
    ← r.required "uri" Decoder.text, ← r.required "line" Decoder.nat32,
    ← r.optional "container" Decoder.text⟩

end SymbolMatch

namespace TableRow

/-- A row's fields as they are written in a document. -/
def fields (r : TableRow) : List (String × Value) :=
  [("match_id", .str r.matchId),
    ("columns", .seq (r.columns.map fun (h, v) => .seq [.str h, .str v]))]

/-- Reads a row. -/
def decode : Decoder TableRow := fun v => do
  let r ← Record.of? .json ["match_id", "columns"] v
  some ⟨← r.required "match_id" Decoder.text,
    ← r.required "columns" (Decoder.list .json (Decoder.pair Decoder.text Decoder.text))⟩

end TableRow

namespace Location

/-- A location's fields as they are written in a document. -/
def fields (l : Location) : List (String × Value) :=
  [("path", .str l.path), ("line", .int l.line), ("column", .int l.column), ("text", .str l.text)]

/-- Reads a location. -/
def decode : Decoder Location := fun v => do
  let r ← Record.of? .json ["path", "line", "column", "text"] v
  some ⟨← r.required "path" Decoder.text, ← r.required "line" Decoder.nat32,
    ← r.required "column" Decoder.nat32, ← r.withDefault "text" "" Decoder.text⟩

end Location

/-- Splits off the tag of a union: the entry `type` of a mapping, or the first
item of a sequence. -/
def Decoder.tagged? (v : Value) : Option (String × Value) :=
  match v with
  | .map entries => do
    let (tags, rest) := entries.partition fun (k, _) => k = .str "type"
    match tags with
    | [(_, t)] => some (← t.asStr?, .map rest)
    | _ => none
  | .seq (t :: rest) => do some (← t.asStr?, .seq rest)
  | _ => none

namespace Finding

/-- A finding as a document value. -/
def encode : Finding → Value
  | .symbol s => .record (("type", .str "symbol") :: s.fields)
  | .row r => .record (("type", .str "datatable") :: r.fields)
  | .dependency c => .record (("type", .str "dependency") :: c.fields)
  | .location l => .record (("type", .str "location") :: l.fields)

/-- Reads a finding. -/
def decode : Decoder Finding := fun v => do
  let (tag, body) ← Decoder.tagged? v
  if tag = "symbol" then (SymbolMatch.decode body).map .symbol
  else if tag = "datatable" then (TableRow.decode body).map .row
  else if tag = "dependency" then (Coordinate.decode body).map .dependency
  else if tag = "location" then (Location.decode body).map .location
  else none

end Finding

namespace Match

/-- A match as a document value. -/
def encode (m : Match) : Value :=
  .record [("sourceId", .str m.source), ("scanner", .str m.scanner.id),
    ("payload", m.finding.encode)]

/-- Reads a match. -/
def decode : Decoder Match := fun v => do
  let r ← Record.of? .json ["sourceId", "scanner", "payload"] v
  some ⟨← r.required "sourceId" Decoder.text,
    ← r.required "scanner" (Decoder.name ScannerKind.ofId?),
    ← r.required "payload" Finding.decode⟩

end Match

end Uplift
