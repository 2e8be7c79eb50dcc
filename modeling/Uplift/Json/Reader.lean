import Uplift.Value.Basic
import Uplift.Decimal.Reading
/-! # Reading JSON

A JSON text becomes a document value. Entries of an object stay in document order, repeated keys
included; who needs one entry per key decides which. Whole numbers of at most 64 bits are integers,
every other number is a double. Arrays and objects nest at most 127 deep.

* `read?` is the reader for a whole text.
* Every reader of a part gives the value and the characters that follow it.
-/

namespace Uplift.Json

/-- The blanks between tokens. -/
def isSpace (c : Char) : Bool := c = ' ' || c = '\n' || c = '\t' || c = '\r'

/-- The text after its leading blanks. -/
def skipSpace (s : List Char) : List Char := s.dropWhile isSpace

/-- The value of a hexadecimal digit. -/
def hexDigit? (c : Char) : Option Nat :=
  if '0' ≤ c && c ≤ '9' then some (c.toNat - '0'.toNat)
  else if 'a' ≤ c && c ≤ 'f' then some (c.toNat - 'a'.toNat + 10)
  else if 'A' ≤ c && c ≤ 'F' then some (c.toNat - 'A'.toNat + 10)
  else none

/-- Four hexadecimal digits. -/
def hex4? : List Char → Option (Nat × List Char)
  | a :: b :: c :: d :: rest => do
    let n := (← hexDigit? a) * 4096 + (← hexDigit? b) * 256 + (← hexDigit? c) * 16 + (← hexDigit? d)
    some (n, rest)
  | _ => none

/-- The character of an escape, after its backslash. Two escaped surrogates make one character;
one that stands alone makes none. -/
def escape? : List Char → Option (Char × List Char)
  | 'u' :: rest => do
    let (hi, rest) ← hex4? rest
    if 0xD800 ≤ hi ∧ hi < 0xDC00 then
      match rest with
      | '\\' :: 'u' :: rest => do
        let (lo, rest) ← hex4? rest
        if 0xDC00 ≤ lo ∧ lo < 0xE000 then
          some (Char.ofNat (0x10000 + (hi - 0xD800) * 1024 + (lo - 0xDC00)), rest)
        else none
      | _ => none
    else if 0xDC00 ≤ hi ∧ hi < 0xE000 then none
    else some (Char.ofNat hi, rest)
  | '"' :: rest => some ('"', rest)
  | '\\' :: rest => some ('\\', rest)
  | '/' :: rest => some ('/', rest)
  | 'b' :: rest => some ('\x08', rest)
  | 'f' :: rest => some ('\x0c', rest)
  | 'n' :: rest => some ('\n', rest)
  | 'r' :: rest => some ('\r', rest)
  | 't' :: rest => some ('\t', rest)
  | _ => none

/-- A string after its opening quote; `acc` is read already, backwards. -/
def string? : (fuel : Nat) → (acc s : List Char) → Option (String × List Char)
  | 0, _, _ => none
  | fuel + 1, acc, s =>
    match s with
    | '"' :: rest => some (String.ofList acc.reverse, rest)
    | '\\' :: rest => do
      let (c, rest) ← escape? rest
      string? fuel (c :: acc) rest
    | c :: rest => if c.toNat < 0x20 then none else string? fuel (c :: acc) rest
    | [] => none

/-- The digits at the head of a text and what follows them. -/
def digits (s : List Char) : List Char × List Char := s.span Char.isDigit

/-- The number that decimal digits spell. -/
def decimal (ds : List Char) : Nat := ds.foldl (fun n c => n * 10 + (c.toNat - '0'.toNat)) 0

/-- As many leading digits as fit 64 bits, as a number, and how many digits are left over. -/
def fitting (n : Nat) : List Char → Nat × Nat
  | [] => (n, 0)
  | c :: rest =>
    let m := n * 10 + (c.toNat - '0'.toNat)
    if m < Nat.pow 2 64 then fitting m rest else (n, rest.length + 1)

/-- The exponent part of a number, if there is one. -/
def exponent? (s : List Char) : Option (Int × List Char) :=
  match s with
  | c :: rest =>
    if c = 'e' || c = 'E' then
      let (negative, rest) := match rest with
        | '-' :: more => (true, more)
        | '+' :: more => (false, more)
        | more => (false, more)
      let (ds, rest) := digits rest
      if ds.isEmpty then none
      else some (if negative then -(decimal ds : Int) else decimal ds, rest)
    else some (0, s)
  | [] => some (0, [])

/-- A double with its sign. -/
def signed (negative : Bool) (f : Float) : Value :=
  .float (if negative then -f else f).toBits

/-- A double from a significand of 64 bits and a power of ten. -/
def double? (negative : Bool) (significand : Nat) (exponent : Int) : Option Value :=
  if exponent.natAbs > 2147483647 then
    if significand ≠ 0 ∧ 0 < exponent then none else some (signed negative 0.0)
  else (Decimal.scaled significand exponent).map (signed negative)

/-- A number after its sign. -/
def number? (negative : Bool) (s : List Char) : Option (Value × List Char) := do
  let (whole, rest) := digits s
  if whole.isEmpty ∨ (whole.length > 1 ∧ whole.head? = some '0') then none
  else
    let (n, dropped) := fitting 0 whole
    match rest with
    | '.' :: rest =>
      let (fraction, rest) := digits rest
      if fraction.isEmpty then none
      else
        let (n, left) := fitting n fraction
        let (e, rest) ← exponent? rest
        some (← double? negative n (dropped + left - fraction.length + e), rest)
    | 'e' :: _ | 'E' :: _ =>
      let (e, rest) ← exponent? rest
      some (← double? negative n (dropped + e), rest)
    | rest =>
      if dropped > 0 then some (← double? negative n dropped, rest)
      else if !negative then some (.int n, rest)
      else if n = 0 ∨ n > Nat.pow 2 63 then some (signed true (Float.ofNat n), rest)
      else some (.int (-n), rest)

/-- The text after a fixed word. -/
def word? (word : List Char) (s : List Char) : Option (List Char) :=
  if word.isPrefixOf s then some (s.drop word.length) else none

mutual

/-- A value at the head of a text. `depth` arrays and objects may still open inside each other. -/
def value? : (fuel depth : Nat) → List Char → Option (Value × List Char)
  | 0, _, _ => none
  | fuel + 1, depth, s =>
    match skipSpace s with
    | 'n' :: rest => (word? ['u', 'l', 'l'] rest).map fun r => (.null, r)
    | 't' :: rest => (word? ['r', 'u', 'e'] rest).map fun r => (.bool true, r)
    | 'f' :: rest => (word? ['a', 'l', 's', 'e'] rest).map fun r => (.bool false, r)
    | '"' :: rest => (string? (rest.length + 1) [] rest).map fun (t, r) => (.str t, r)
    | '-' :: rest => number? true rest
    | '[' :: rest =>
      if depth = 0 then none
      else match skipSpace rest with
        | ']' :: rest => some (.seq [], rest)
        | rest => (items? fuel (depth - 1) [] rest).map fun (vs, r) => (.seq vs, r)
    | '\x7b' :: rest =>
      if depth = 0 then none
      else match skipSpace rest with
        | '\x7d' :: rest => some (.map [], rest)
        | rest => (entries? fuel (depth - 1) [] rest).map fun (es, r) => (.map es, r)
    | c :: rest => if c.isDigit then number? false (c :: rest) else none
    | [] => none

/-- The items of an array from one on up to the closing bracket; `acc`
is read already, backwards. -/
def items? : (fuel depth : Nat) → List Value → List Char → Option (List Value × List Char)
  | 0, _, _, _ => none
  | fuel + 1, depth, acc, s => do
    let (v, rest) ← value? fuel depth s
    match skipSpace rest with
    | ',' :: rest => items? fuel depth (v :: acc) rest
    | ']' :: rest => some ((v :: acc).reverse, rest)
    | _ => none

/-- The entries of an object from one on up to the closing brace; `acc` is read already,
backwards. -/
def entries? : (fuel depth : Nat) → List (Value × Value) → List Char →
    Option (List (Value × Value) × List Char)
  | 0, _, _, _ => none
  | fuel + 1, depth, acc, s =>
    match skipSpace s with
    | '"' :: rest => do
      let (k, rest) ← string? (rest.length + 1) [] rest
      match skipSpace rest with
      | ':' :: rest => do
        let (v, rest) ← value? fuel depth rest
        match skipSpace rest with
        | ',' :: rest => entries? fuel depth ((.str k, v) :: acc) rest
        | '\x7d' :: rest => some (((.str k, v) :: acc).reverse, rest)
        | _ => none
      | _ => none
    | _ => none

end

/-- How many arrays and objects may lie inside each other. -/
def maxDepth : Nat := 127

/-- The value that a JSON text spells. -/
def read? (text : List Char) : Option Value := do
  let (v, rest) ← value? (2 * text.length + 2) maxDepth text
  if (skipSpace rest).isEmpty then some v else none

/-- `read?` on strings. -/
def parse? (text : String) : Option Value := read? text.toList

end Uplift.Json
