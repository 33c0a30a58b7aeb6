/-!
# Binary values and decimals

A finite floating value is `mantissa * 2 ^ exponent` exactly, a decimal is `digits * 10 ^ exponent`.
The two are compared by cross-multiplying naturals, so nothing is rounded:

    readsBack x d = true  says that `d` is among the reals that round to `x`.
-/

namespace StoryRules.Decimal

/-- The exact absolute value of a finite floating number. -/
structure Binary where
  mantissa : Nat
  exponent : Int
  /-- The value below is only half as far away as the value above. -/
  narrowBelow : Bool

/-- The value that the bits of a finite number stand for. -/
def Binary.ofBits (bits : UInt64) : Binary :=
  let exponent := ((bits >>> 52) &&& 0x7FF).toNat
  let fraction := (bits &&& 0xFFFFFFFFFFFFF).toNat
  if exponent = 0 then ⟨fraction, -1074, false⟩
  else ⟨0x10000000000000 + fraction, (exponent : Int) - 1075, fraction = 0 && exponent > 1⟩

/-- `digits * 10 ^ exponent`. -/
structure Scientific where
  digits : Nat
  exponent : Int

/-- `2 ^ k`, and `1` for `k` below zero. -/
def twoPower (k : Int) : Nat := Nat.pow 2 k.toNat

/-- `10 ^ k`, and `1` for `k` below zero. -/
def tenPower (k : Int) : Nat := Nat.pow 10 k.toNat

/-- Compares `a * 10 ^ i` with `b * 2 ^ j`. -/
def compareScaled (a : Nat) (i : Int) (b : Nat) (j : Int) : Ordering :=
  compare (a * tenPower i * twoPower (-j)) (b * twoPower j * tenPower (-i))

/-- Whether the decimal lies among the reals that round to the value; the ends of that interval
belong to it when the mantissa is even. -/
def Binary.readsBack (x : Binary) (d : Scientific) : Bool :=
  let low := if x.narrowBelow then 4 * x.mantissa - 1 else 4 * x.mantissa - 2
  let closed := x.mantissa % 2 = 0
  let below := compareScaled d.digits d.exponent low (x.exponent - 2)
  let above := compareScaled d.digits d.exponent (4 * x.mantissa + 2) (x.exponent - 2)
  (below = .gt || (closed && below = .eq)) && (above = .lt || (closed && above = .eq))

/-- The number of decimal digits of `n`, or one more. -/
def digitBound (n : Nat) : Nat :=
  n.log2 * 30103 / 100000 + 1

/-- The floating number nearest to `d`: infinite from about `10 ^ 309` on, zero below about
`10 ^ -324`. -/
def Scientific.toFloat (d : Scientific) : Float :=
  if d.digits = 0 then 0.0
  else if (digitBound d.digits : Int) + d.exponent > 312 then 1.0 / 0.0
  else if (digitBound d.digits : Int) + d.exponent < -330 then 0.0
  else Float.ofScientific d.digits (d.exponent < 0) d.exponent.natAbs

end StoryRules.Decimal
