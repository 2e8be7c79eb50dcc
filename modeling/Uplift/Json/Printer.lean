import Uplift.Value.Basic
import Uplift.Decimal.Shortest
/-! # Writing JSON

Two layouts of one value: `compact` on a single line without blanks, and `pretty` with one item per
line and two blanks for each level. A value that JSON lacks is written as its nearest kin: a double
that is not finite as `null`, a tagged value as an object with the tag as its only key, and a key
that is a number or a boolean as its text. Other keys have no JSON form.

* `encode?` turns a document value into one that JSON has, or fails at such a key.
-/

namespace Uplift.Json

/-- The lower-case hexadecimal digit of a number below 16. -/
def hexChar (n : Nat) : Char := Nat.digitChar n

/-- A character as it stands between the quotes of a string. -/
def escapeChar (c : Char) : List Char :=
  match c with
  | '"' => ['\\', '"']
  | '\\' => ['\\', '\\']
  | '\x08' => ['\\', 'b']
  | '\x0c' => ['\\', 'f']
  | '\n' => ['\\', 'n']
  | '\r' => ['\\', 'r']
  | '\t' => ['\\', 't']
  | c =>
    if c.toNat < 0x20 then
      ['\\', 'u', '0', '0', hexChar (c.toNat / 16), hexChar (c.toNat % 16)]
    else [c]

/-- A string in quotes. -/
def quoted (s : String) : String :=
  "\"" ++ String.ofList (s.toList.flatMap escapeChar) ++ "\""

/-- A number, a truth value or null. -/
def scalarText : Value → String
  | .bool b => if b then "true" else "false"
  | .int n => toString n
  | .float bits => if Decimal.isFinite bits then Decimal.finiteText bits else "null"
  | _ => "null"

/-- The text of a key. -/
def keyText : Value → String
  | .str s => s
  | v => scalarText v

mutual

/-- Whether every key in a value has a JSON form. -/
def hasForm : Value → Bool
  | .seq items => hasFormItems items
  | .map entries => hasFormEntries entries
  | .tagged _ v => hasForm v
  | _ => true

/-- `hasForm` for each item. -/
def hasFormItems : List Value → Bool
  | [] => true
  | v :: rest => hasForm v && hasFormItems rest

/-- `hasForm` for each entry; a key is a text, a number or a truth value. -/
def hasFormEntries : List (Value × Value) → Bool
  | [] => true
  | (k, v) :: rest =>
    (match k with
      | .str _ | .bool _ | .int _ => true
      | .float bits => Decimal.isFinite bits
      | _ => false) && hasForm v && hasFormEntries rest

end

mutual

/-- A value on one line. -/
def compact : Value → String
  | .str s => quoted s
  | .seq items => "[" ++ compactItems items ++ "]"
  | .map entries => "\x7b" ++ compactEntries entries ++ "\x7d"
  | .tagged t v => "\x7b" ++ quoted t ++ ":" ++ compact v ++ "\x7d"
  | v => scalarText v

/-- Items with commas between them. -/
def compactItems : List Value → String
  | [] => ""
  | [v] => compact v
  | v :: rest => compact v ++ "," ++ compactItems rest

/-- Entries with commas between them. -/
def compactEntries : List (Value × Value) → String
  | [] => ""
  | [(k, v)] => quoted (keyText k) ++ ":" ++ compact v
  | (k, v) :: rest => quoted (keyText k) ++ ":" ++ compact v ++ "," ++ compactEntries rest

end

/-- A line break and the blanks of a level. -/
def newLine (level : Nat) : String := "\n" ++ String.ofList (List.replicate (2 * level) ' ')

mutual

/-- A value over several lines; `level` counts what it lies in. -/
def prettyAt (level : Nat) : Value → String
  | .str s => quoted s
  | .seq [] => "[]"
  | .seq items => "[" ++ prettyItems (level + 1) items ++ newLine level ++ "]"
  | .map [] => "\x7b\x7d"
  | .map entries => "\x7b" ++ prettyEntries (level + 1) entries ++ newLine level ++ "\x7d"
  | .tagged t v =>
    "\x7b" ++ newLine (level + 1) ++ quoted t ++ ": " ++ prettyAt (level + 1) v ++
      newLine level ++ "\x7d"
  | v => scalarText v

/-- Items, each on a line of its own. -/
def prettyItems (level : Nat) : List Value → String
  | [] => ""
  | [v] => newLine level ++ prettyAt level v
  | v :: rest => newLine level ++ prettyAt level v ++ "," ++ prettyItems level rest

/-- Entries, each on a line of its own. -/
def prettyEntries (level : Nat) : List (Value × Value) → String
  | [] => ""
  | [(k, v)] => newLine level ++ quoted (keyText k) ++ ": " ++ prettyAt level v
  | (k, v) :: rest =>
    newLine level ++ quoted (keyText k) ++ ": " ++ prettyAt level v ++ "," ++
      prettyEntries level rest

end

/-- A value over several lines. -/
def pretty (v : Value) : String := prettyAt 0 v

end Uplift.Json
