import Uplift.Text.Blank
/-! # Arithmetic in scripts

* `Sum.eval` gives the value of an arithmetic expression: whole numbers and variables under the
  usual operators, where a comparison gives one or nothing.
-/

namespace Uplift.Shell.Sum

/-- The binary operators by strength, the weakest first, and a longer one before those that
begin it. -/
def levels : List (List String) :=
  [["||"], ["&&"], ["|"], ["^"], ["&"], ["==", "!="], ["<=", ">=", "<", ">"], ["<<", ">>"],
    ["+", "-"], ["*", "/", "%"]]

/-- One for a truth. -/
def ofBool (b : Bool) : Int := if b then 1 else 0

/-- The value of a binary operator; nothing can be divided by zero. -/
def apply (op : String) (a b : Int) : Option Int :=
  match op with
  | "+" => some (a + b)
  | "-" => some (a - b)
  | "*" => some (a * b)
  | "/" => if b = 0 then none else some (a.tdiv b)
  | "%" => if b = 0 then none else some (a.tmod b)
  | "==" => some (ofBool (a = b))
  | "!=" => some (ofBool (a ≠ b))
  | "<" => some (ofBool (a < b))
  | "<=" => some (ofBool (a ≤ b))
  | ">" => some (ofBool (a > b))
  | ">=" => some (ofBool (a ≥ b))
  | "&&" => some (ofBool (a ≠ 0 && b ≠ 0))
  | "||" => some (ofBool (a ≠ 0 || b ≠ 0))
  | "<<" => some (a * Nat.pow 2 b.toNat)
  | ">>" => some (a / Nat.pow 2 b.toNat)
  | "&" => some (Int.ofNat (a.toNat &&& b.toNat))
  | "|" => some (Int.ofNat (a.toNat ||| b.toNat))
  | "^" => some (Int.ofNat (a.toNat ^^^ b.toNat))
  | _ => none

/-- The operator of a level at the beginning, and what follows it. A sign that is doubled belongs to
another level. -/
def operator? (names : List String) (s : List Char) : Option (String × List Char) :=
  names.findSome? fun name =>
    match Text.strip? name.toList s with
    | some rest =>
      if name.length = 1 && "|&<>".toList.contains (name.toList.headD ' ') &&
          rest.head? = name.toList.head? then none
      else some (name, rest)
    | none => none

/-- The whole number that a text spells, in any of the usual bases. -/
def number? (s : List Char) : Option Int :=
  let inBase (base : Nat) (digits : List Char) : Option Int :=
    (digits.foldlM (fun (n : Nat) c =>
      let d := if c.isDigit then c.toNat - 48 else c.toLower.toNat - 87
      if d < base then some (n * base + d) else none) 0).map Int.ofNat
  match s with
  | '0' :: 'x' :: rest => inBase 16 rest
  | '0' :: rest => inBase 8 rest
  | s => inBase 10 s

mutual

/-- The value of an expression of a level or stronger, and what follows it. -/
def level (vars : String → String) : (fuel : Nat) → List (List String) → List Char →
    Option (Int × List Char)
  | 0, _, _ => none
  | fuel + 1, [], s => atom vars fuel s
  | fuel + 1, names :: stronger, s => do
    let (a, rest) ← level vars fuel stronger s
    more vars fuel names stronger a rest

/-- Applies the operators of a level, from the left. -/
def more (vars : String → String) : (fuel : Nat) → List String → List (List String) → Int →
    List Char → Option (Int × List Char)
  | 0, _, _, _, _ => none
  | fuel + 1, names, stronger, a, s =>
    match operator? names (Text.trimStart s) with
    | some (op, rest) => do
      let (b, rest) ← level vars fuel stronger rest
      more vars fuel names stronger (← apply op a b) rest
    | none => some (a, s)

/-- The value of a number, a variable, a sign or brackets, and what follows it. -/
def atom (vars : String → String) : (fuel : Nat) → List Char → Option (Int × List Char)
  | 0, _ => none
  | fuel + 1, s =>
    match Text.trimStart s with
    | '(' :: rest => do
      let (a, rest) ← level vars fuel levels rest
      match Text.trimStart rest with
      | ')' :: rest => some (a, rest)
      | _ => none
    | '-' :: rest => (atom vars fuel rest).map fun (a, rest) => (-a, rest)
    | '+' :: rest => atom vars fuel rest
    | '!' :: rest => (atom vars fuel rest).map fun (a, rest) => (ofBool (a = 0), rest)
    | s =>
      let word := s.takeWhile fun c => c.isAlphanum || c = '_'
      let rest := s.drop word.length
      match word with
      | [] => none
      | c :: _ =>
        if c.isDigit then (number? word).map fun a => (a, rest)
        else
          let text := Text.trim (vars (String.ofList word)).toList
          if text.isEmpty then some (0, rest)
          else match text with
            | '-' :: text => (number? text).map fun a => (-a, rest)
            | text => (number? text).map fun a => (a, rest)

end

/-- The value of an expression. -/
def eval (vars : String → String) (source : String) : Option Int :=
  let s := source.toList
  if Text.isBlankText s then some 0
  else match level vars (16 * (s.length + 2)) levels s with
    | some (a, rest) => if Text.isBlankText rest then some a else none
    | none => none

end Uplift.Shell.Sum
