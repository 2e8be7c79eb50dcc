import Uplift.Value.Basic
/-! # Decoding document values

How a document value becomes a value of a domain type. A decoder is a function into `Option`. Tags
are looked through, texts are not made from other scalars, and a whole number must lie in its
field's range.

A record is a mapping whose keys are texts; entries that name no field are ignored, and two entries
for one field are refused. The formats differ in two things: JSON also takes the sequence of its
fields for a record, and YAML takes null for an empty record or sequence.

* `Record.required`, `Record.optional`, `Record.withDefault`: the three ways of reading a field.
-/

namespace Uplift

/-- A way to read a domain value from a document value. -/
abbrev Decoder (α : Type) := Value → Option α

/-- The format that a document value was read from. -/
inductive Format where
  | json | yaml
deriving DecidableEq, Repr

namespace Decoder

/-- A text. -/
def text : Decoder String := Value.asStr?

/-- A truth value. -/
def truth : Decoder Bool := fun v =>
  match v.untag with
  | .bool b => some b
  | _ => none

/-- A whole number from `low` to `high`. -/
def intWithin (low high : Int) : Decoder Int := fun v =>
  match v.untag with
  | .int n => if low ≤ n ∧ n ≤ high then some n else none
  | _ => none

/-- A whole number of 32 bits with a sign. -/
def int32 : Decoder Int := intWithin (-2147483648) 2147483647

/-- A whole number of 64 bits with a sign. -/
def int64 : Decoder Int := intWithin (-9223372036854775808) 9223372036854775807

/-- A whole number of 32 bits. -/
def nat32 : Decoder Nat := fun v => (intWithin 0 4294967295 v).map Int.toNat

/-- A whole number of 64 bits. -/
def nat64 : Decoder Nat := fun v => (intWithin 0 18446744073709551615 v).map Int.toNat

/-- Each item of a list, in order. -/
def all {α : Type} (item : Decoder α) : List Value → Option (List α)
  | [] => some []
  | v :: rest => do
    let x ← item v
    let xs ← all item rest
    some (x :: xs)

/-- A sequence. -/
def list {α : Type} (format : Format) (item : Decoder α) : Decoder (List α) := fun v =>
  match v.untag, format with
  | .seq items, _ => all item items
  | .null, .yaml => some []
  | _, _ => none

/-- Null, or a value. -/
def nullable {α : Type} (item : Decoder α) : Decoder (Option α) := fun v =>
  match v with
  | .null => some none
  | _ => (item v).map some

/-- A pair, written as a sequence of two. -/
def pair {α β : Type} (first : Decoder α) (second : Decoder β) : Decoder (α × β) := fun v =>
  match v.untag with
  | .seq [a, b] => do some (← first a, ← second b)
  | _ => none

/-- A mapping with text keys, as its entries in order. -/
def entries {α : Type} (item : Decoder α) : Decoder (List (String × α)) := fun v =>
  match v.untag with
  | .map es => es.mapM fun (k, v) => do some (← k.asStr?, ← item v)
  | _ => none

mutual

/-- No mapping in a value has two equal keys. -/
def hasDistinctKeys : Value → Bool
  | .seq items => itemsHaveDistinctKeys items
  | .map entries => entriesAreDistinct [] entries
  | .tagged _ v => hasDistinctKeys v
  | _ => true

/-- `hasDistinctKeys` for each item. -/
def itemsHaveDistinctKeys : List Value → Bool
  | [] => true
  | v :: rest => hasDistinctKeys v && itemsHaveDistinctKeys rest

/-- No key comes twice, also not among `seen`. -/
def entriesAreDistinct (seen : List Value) : List (Value × Value) → Bool
  | [] => true
  | (k, v) :: rest =>
    !seen.contains k && hasDistinctKeys v && entriesAreDistinct (k :: seen) rest

end

/-- A value as it is, if no mapping in it has two equal keys. -/
def document : Decoder Value := fun v => if hasDistinctKeys v then some v else none

/-- A value whose mappings are looked up by key: sorted, with the last of equal keys. -/
def sorted : Decoder Value := fun v => some v.sortKeys

/-- One of the names of an enumeration, or that name as the only key of a mapping, over null. -/
def name {α : Type} (ofName? : String → Option α) : Decoder α := fun v =>
  match v with
  | .map [(k, .null)] => k.asStr?.bind ofName?
  | v => v.asStr?.bind ofName?

end Decoder

/-- The fields of a record that was read. -/
structure Record where
  fields : List (String × Value)

namespace Record

/-- The entries that name a field, if every key is a text and no field is named twice. -/
def named? (names : List String) : List (Value × Value) → Option (List (String × Value))
  | [] => some []
  | (k, v) :: rest => do
    let key ← k.asStr?
    let more ← named? names rest
    if names.contains key then
      if more.any (·.1 = key) then none else some ((key, v) :: more)
    else some more

/-- A document value as a record with the given fields. -/
def of? (format : Format) (names : List String) (v : Value) : Option Record :=
  match v.untag, format with
  | .map es, _ => (named? names es).map fun fields => ⟨fields⟩
  | .seq items, .json =>
    if items.length ≤ names.length then some ⟨names.zip items⟩ else none
  | .null, .yaml => some ⟨[]⟩
  | _, _ => none

/-- The value of a field. -/
def field? (r : Record) (name : String) : Option Value := r.fields.lookup name

/-- A field that must be there. -/
def required {α : Type} (r : Record) (name : String) (item : Decoder α) : Option α :=
  (r.field? name).bind item

/-- A field that may be null or missing. -/
def optional {α : Type} (r : Record) (name : String) (item : Decoder α) : Option (Option α) :=
  match r.field? name with
  | none => some none
  | some v => Decoder.nullable item v

/-- A field that may be missing but not null. -/
def withDefault {α : Type} (r : Record) (name : String) (fallback : α) (item : Decoder α) :
    Option α :=
  match r.field? name with
  | none => some fallback
  | some v => item v

end Record

end Uplift
