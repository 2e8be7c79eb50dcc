import Uplift.Value.Basic
import Uplift.Decimal.Reading
/-! # What plain scalars mean

A plain scalar is null, a truth value, a whole number, a floating-point number or, if it is none of
these, a text.

* `plainValue?`: the meaning; nothing for a whole number of more than 64 and at most 128 bits.
* `isPlainText`: the scalar means a text, also to readers that take a leading zero for a number.
-/

namespace Uplift.Yaml

/-- The value of a digit in a base of at most 16. -/
def digitIn? (base : Nat) (c : Char) : Option Nat :=
  let d :=
    if '0' ≤ c && c ≤ '9' then c.toNat - '0'.toNat
    else if 'a' ≤ c && c ≤ 'f' then c.toNat - 'a'.toNat + 10
    else if 'A' ≤ c && c ≤ 'F' then c.toNat - 'A'.toNat + 10
    else 16
  if d < base then some d else none

/-- The number that digits spell, if there is at least one. -/
def natIn? (base : Nat) (s : List Char) : Option Nat :=
  if s.isEmpty then none else s.foldlM (fun n c => (digitIn? base c).map (n * base + ·)) 0

/-- The text after one leading sign. -/
def afterSign : List Char → List Char
  | '+' :: rest => rest
  | '-' :: rest => rest
  | s => s

/-- A zero with more digits behind it, which is no number. -/
def isZeroPadded (s : List Char) : Bool :=
  match afterSign s with
  | '0' :: d :: rest => (d :: rest).all Char.isDigit
  | _ => false

/-- The magnitude of a whole number without its sign: in one of three bases that are marked, or
decimal. -/
def magnitude? (s : List Char) : Option Nat :=
  match s with
  | '0' :: 'x' :: rest => natIn? 16 rest
  | '0' :: 'o' :: rest => natIn? 8 rest
  | '0' :: 'b' :: rest => natIn? 2 rest
  | rest => natIn? 10 rest

/-- A whole number of any size. -/
def int? (s : List Char) : Option Int :=
  if isZeroPadded s then none
  else match s with
    | '-' :: rest => (magnitude? rest).map fun n => -(n : Int)
    | '+' :: rest => (magnitude? rest).map fun n => (n : Int)
    | rest => (magnitude? rest).map fun n => (n : Int)

/-- The exponent of a decimal, from its letter on. -/
def exponent? : List Char → Option Int
  | [] => some 0
  | c :: rest =>
    if c = 'e' || c = 'E' then
      match rest with
      | '-' :: ds => (natIn? 10 ds).map fun n => -(n : Int)
      | '+' :: ds => (natIn? 10 ds).map fun n => (n : Int)
      | ds => (natIn? 10 ds).map fun n => (n : Int)
    else none

/-- The finite double nearest to a decimal without sign. -/
def decimal? (s : List Char) : Option Float := do
  let (whole, rest) := s.span Char.isDigit
  let (fraction, rest) := match rest with
    | '.' :: more => more.span Char.isDigit
    | _ => ([], rest)
  let e ← exponent? rest
  let n ← natIn? 10 (whole ++ fraction)
  let scale := if e < -5000 then -5000 else if e > 5000 then 5000 else e
  let f := Decimal.nearest n (scale - fraction.length)
  if f.isFinite then some f else none

/-- A floating-point number, as its bits. -/
def float? (s : List Char) : Option UInt64 :=
  let unsigned := if s.head? = some '+' then s.tail else s
  if s.head? = some '+' && (unsigned.head? = some '+' || unsigned.head? = some '-') then none
  else if [".inf".toList, ".Inf".toList, ".INF".toList].contains unsigned then
    some 0x7ff0000000000000
  else if ["-.inf".toList, "-.Inf".toList, "-.INF".toList].contains s then
    some 0xfff0000000000000
  else if [".nan".toList, ".NaN".toList, ".NAN".toList].contains s then some 0x7ff8000000000000
  else match unsigned with
    | '-' :: rest => (decimal? rest).map fun f => (-f).toBits
    | rest => (decimal? rest).map Float.toBits

/-- Nothing is written, or one of the words for null. -/
def isNullText (s : String) : Bool := ["", "null", "Null", "NULL", "~"].contains s

/-- A truth value. -/
def truth? (s : String) : Option Bool :=
  if ["true", "True", "TRUE"].contains s then some true
  else if ["false", "False", "FALSE"].contains s then some false
  else none

/-- What a plain scalar means. -/
def plainValue? (s : String) : Option Value :=
  if isNullText s then some .null
  else match truth? s with
    | some b => some (.bool b)
    | none =>
      let text := s.toList
      let asFloat : Option Value :=
        if isZeroPadded text then some (.str s)
        else match float? text with
          | some bits => some (.float bits)
          | none => some (.str s)
      match int? text with
      | some n =>
        if -(Int.pow 2 63) ≤ n ∧ n < Int.pow 2 64 then some (.int n)
        else if -(Int.pow 2 127) ≤ n ∧ n < Int.pow 2 128 then none
        else asFloat
      | none => asFloat

/-- A plain scalar that every reader takes for a text. -/
def isPlainText (s : String) : Bool :=
  match plainValue? s with
  | some (.str _) => !isZeroPadded s.toList
  | _ => false

end Uplift.Yaml
