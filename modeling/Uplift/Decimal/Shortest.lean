/-! # The shortest decimal that reads back

A positive finite double is `m * 2 ^ e`. The reals that round to it form an interval, whose ends
belong to it exactly if `m` is even. Among the decimals in the interval those with the fewest
digits are taken, of these the nearest to the double, and of two equally near ones the even one.
-/

namespace Uplift.Decimal

/-- A positive decimal `digits * 10 ^ exponent`. -/
structure Scientific where
  digits : Nat
  exponent : Int
deriving Repr, DecidableEq, Inhabited

/-- The significand and the exponent of two of a positive finite double, from its bits. -/
def significand (bits : UInt64) : Nat × Int :=
  let raw := bits.toNat
  let fraction : Nat := raw % Nat.pow 2 52
  let biased : Nat := raw / Nat.pow 2 52 % Nat.pow 2 11
  if biased = 0 then (fraction, -1074) else (fraction + Nat.pow 2 52, (biased : Int) - 1075)

/-- A fraction `num / den`. -/
structure Ratio where
  num : Nat
  den : Nat

/-- `m * 2 ^ e` as a fraction. -/
def Ratio.scaled (m : Nat) (e : Int) : Ratio :=
  if 0 ≤ e then ⟨m * Nat.pow 2 e.toNat, 1⟩ else ⟨m, Nat.pow 2 (-e).toNat⟩

/-- The fraction times `10 ^ k`. -/
def Ratio.shift (r : Ratio) (k : Int) : Ratio :=
  if 0 ≤ k then ⟨r.num * Nat.pow 10 k.toNat, r.den⟩ else ⟨r.num, r.den * Nat.pow 10 (-k).toNat⟩

/-- Compares a fraction with a whole number. -/
def Ratio.cmpNat (r : Ratio) (n : Nat) : Ordering := compare r.num (n * r.den)

/-- Trailing zeros move into the exponent. -/
def Scientific.stripZeros : Nat → Scientific → Scientific
  | 0, s => s
  | fuel + 1, s =>
    if s.digits ≠ 0 ∧ s.digits % 10 = 0 then
      stripZeros fuel ⟨s.digits / 10, s.exponent + 1⟩
    else s

/-- The number of decimal digits before the point, for a positive fraction: `10 ^ (p - 1) ≤ r <
10 ^ p`. The search starts at the bottom of the range of doubles. -/
def magnitude (r : Ratio) : Int :=
  go 700 (-340)
where
  /-- The first `p` from here on with `r < 10 ^ p`. -/
  go : Nat → Int → Int
    | 0, p => p
    | fuel + 1, p => if (r.shift (-p)).cmpNat 1 = .lt then p else go fuel (p + 1)

/-- The decimal with `10 ^ grid` as its unit that lies in the interval from `low` to `high` and is
nearest to `value`, if one lies there. -/
def onGrid (value low high : Ratio) (closed : Bool) (grid : Int) : Option Scientific :=
  let v := value.shift (-grid)
  let below := v.num / v.den
  let inside (n : Nat) : Bool :=
    let l := (low.shift (-grid)).cmpNat n
    let h := (high.shift (-grid)).cmpNat n
    n ≠ 0 && (l = .lt || (closed && l = .eq)) && (h = .gt || (closed && h = .eq))
  let above := below + 1
  match inside below, inside above with
  | true, true =>
    let twice := 2 * (v.num % v.den)
    if twice < v.den ∨ (twice = v.den ∧ below % 2 = 0) then some ⟨below, grid⟩
    else some ⟨above, grid⟩
  | true, false => some ⟨below, grid⟩
  | false, true => some ⟨above, grid⟩
  | false, false => none

/-- The shortest decimal of a positive finite double. -/
def shortest (bits : UInt64) : Scientific :=
  let (m, e) := significand bits
  let value := Ratio.scaled (4 * m) (e - 2)
  let high := Ratio.scaled (4 * m + 2) (e - 2)
  let low := if m = Nat.pow 2 52 ∧ e ≠ -1074 then Ratio.scaled (4 * m - 1) (e - 2)
    else Ratio.scaled (4 * m - 2) (e - 2)
  let p := magnitude value
  let found := (List.range 17).findSome? fun (n : Nat) =>
    onGrid value low high (m % 2 = 0) (p - 1 - n)
  (found.getD ⟨m, 0⟩).stripZeros 20

/-- A decimal as data formats write it: positional while the point falls within sixteen places
after the first digit or five before it, with an exponent outside. A whole number ends in a zero
after the point. -/
def Scientific.text (s : Scientific) : String :=
  let digits := Nat.toDigits 10 s.digits
  let count : Int := digits.length
  let point := count + s.exponent
  if 0 ≤ s.exponent ∧ point ≤ 16 then
    String.ofList (digits ++ List.replicate s.exponent.toNat '0' ++ ['.', '0'])
  else if 0 < point ∧ point ≤ 16 then
    String.ofList (digits.take point.toNat ++ '.' :: digits.drop point.toNat)
  else if -5 < point ∧ point ≤ 0 then
    String.ofList ('0' :: '.' :: List.replicate (-point).toNat '0' ++ digits)
  else
    let tail := match digits with
      | [d] => [d]
      | d :: more => d :: '.' :: more
      | [] => []
    String.ofList tail ++ "e" ++ toString (point - 1)

/-- The exponent bits of a double are all set: it is infinite or not a number. -/
def isFinite (bits : UInt64) : Bool := bits.toNat / Nat.pow 2 52 % Nat.pow 2 11 ≠ 2047

/-- A finite double as data formats write it. -/
def finiteText (bits : UInt64) : String :=
  let sign := if bits.toNat / Nat.pow 2 63 = 1 then "-" else ""
  let body := bits.toNat % Nat.pow 2 63
  if body = 0 then sign ++ "0.0" else sign ++ (shortest (UInt64.ofNat body)).text

end Uplift.Decimal
