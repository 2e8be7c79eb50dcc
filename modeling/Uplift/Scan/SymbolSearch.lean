import Uplift.Scan.Scanner
/-! # Search for symbols

Asks a symbol server for Java symbols. The server numbers the kinds of places where a symbol can
occur; a symbol without a number cannot be asked for.
-/

namespace Uplift.Scan.SymbolSearch

/-- The symbols that the server knows, in the order of their numbers, which begin at one. -/
def symbols : List String :=
  ["inheritance", "method_call", "constructor_call", "annotation", "implements_type",
    "enum_constant", "return_type", "import", "variable_declaration", "type", "package", "field",
    "method", "class"]

/-- The number of a symbol. -/
def locationCode? (symbol : String) : Option Nat := (symbols.idxOf? symbol).map (· + 1)

/-- The command that searches. -/
def ruleCommand : String := "io.konveyor.tackle.ruleEntry"

/-- The argument of the command. -/
def argument (query : String) (code : Nat) : Value :=
  .record [("project", .str "java"), ("query", .str query), ("location", .str (toString code)),
    ("analysisMode", .str "source-only")]

/-- The line of a position. -/
def decodePosition : Decoder Nat := fun v => do
  let r ← Record.of? .json ["line"] v
  r.required "line" Decoder.nat32

/-- The line where a range begins. -/
def decodeRange : Decoder Nat := fun v => do
  let r ← Record.of? .json ["start"] v
  r.required "start" decodePosition

/-- Where a symbol is. -/
def decodePlace : Decoder (String × Nat) := fun v => do
  let r ← Record.of? .json ["uri", "range"] v
  some (← r.required "uri" Decoder.text, ← r.required "range" decodeRange)

/-- Reads a symbol of an answer. -/
def decodeSymbol : Decoder SymbolMatch := fun v => do
  let r ← Record.of? .json ["name", "kind", "location", "containerName"] v
  let (uri, line) ← r.required "location" decodePlace
  some ⟨← r.required "name" Decoder.text, ← r.required "kind" Decoder.nat32, uri, line,
    ← r.optional "containerName" Decoder.text⟩

/-- The matches of an answer. -/
def matches' (answer : Value) : Except ScanError (List Match) :=
  match answer with
  | .null => .ok []
  | v =>
    match Decoder.list .json decodeSymbol v with
    | some found => .ok (found.map fun s => ⟨s.uri, .jdtls, .symbol s⟩)
    | none => .error (.server .badResponse)

/-- The scanner. -/
def scanner {σ : Type} (o : Outside σ) : Scanner σ where
  kind := .jdtls
  supports q := q.kind = "java"
  scan c q := do
    match ← c.request .jdtls q with
    | .symbol symbol query =>
      match locationCode? symbol with
      | none => ScanM.ofExcept (.error (.state (.noLocationCode symbol)))
      | some code =>
        let answer ← ScanM.ask o ruleCommand [argument query code]
        ScanM.ofExcept (matches' answer)
    | _ => ScanM.ofExcept (.error (.state (.foreignRequest .jdtls)))

end Uplift.Scan.SymbolSearch
