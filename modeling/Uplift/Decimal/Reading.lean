/-! # Reading decimals into doubles

Two readers. `nearest` takes the double nearest to the decimal. `scaled` takes a significand of at
most 64 bits, rounds it, and applies the power of ten in one multiplication or division, which is
what the JSON reader does; its result may be the neighbour of the nearest double.
-/

namespace Uplift.Decimal

/-- The double nearest to `digits * 10 ^ exponent`. -/
def nearest (digits : Nat) (exponent : Int) : Float :=
  if digits = 0 then 0.0
  else if 0 ≤ exponent then
    if exponent > 400 then Float.ofBits 0x7ff0000000000000
    else Float.ofScientific digits false exponent.toNat
  else Float.ofScientific digits true (-exponent).toNat

/-- The double `10 ^ k`. -/
def powerOfTen (k : Nat) : Float := Float.ofScientific 1 false k

/-- `digits * 10 ^ exponent` by one multiplication or division of rounded operands, in steps of 308
for small numbers; nothing if the result is out of range. -/
def scaled (digits : Nat) (exponent : Int) : Option Float :=
  go 100 (Float.ofNat digits) exponent
where
  /-- The value so far, and the power that is still missing. -/
  go : Nat → Float → Int → Option Float
    | 0, f, _ => some f
    | fuel + 1, f, e =>
      if e.natAbs ≤ 308 then
        if 0 ≤ e then
          let g := f * powerOfTen e.natAbs
          if isFinite g.toBits then some g else none
        else some (f / powerOfTen e.natAbs)
      else if f == 0.0 then some f
      else if 0 ≤ e then none
      else go fuel (f / powerOfTen 308) (e + 308)
  /-- The exponent bits of a double are not all set. -/
  isFinite (bits : UInt64) : Bool := bits.toNat / Nat.pow 2 52 % Nat.pow 2 11 ≠ 2047

end Uplift.Decimal
