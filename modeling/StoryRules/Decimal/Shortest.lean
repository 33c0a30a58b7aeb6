import StoryRules.Decimal.Binary

/-!
# Shortest decimals

The text of a floating number is the decimal with the fewest digits that reads back as that
number, and of those the nearest.  It is written positionally from `10 ^ -4` up to `10 ^ 16`, with
`.0` behind a whole number, and otherwise with an exponent of at least two digits.
-/

namespace StoryRules.Decimal

/-! ## Digits -/

/-- The least `k` with `x < 10 ^ k`, found from an estimate that is off by two at most. -/
def Binary.scale (x : Binary) : Int :=
  let estimate := ((x.mantissa.log2 : Int) + x.exponent) * 30103 / 100000 - 1
  let fits := fun k : Int => compareScaled 1 k x.mantissa x.exponent = .gt
  match [0, 1, 2, 3].find? fun step : Nat => fits (estimate + step) with
  | some step => estimate + step
  | none => estimate + 4

/-- The best decimal on the grid of `10 ^ exponent`, if a neighbour of the value there reads back:
the nearer one, and the even one when both are equally near. -/
def Binary.nearestOnGrid? (x : Binary) (exponent : Int) : Option Scientific :=
  let numerator := x.mantissa * twoPower x.exponent * tenPower (-exponent)
  let denominator := twoPower (-x.exponent) * tenPower exponent
  let floor := numerator / denominator
  let low : Scientific := ⟨floor, exponent⟩
  let high : Scientific := ⟨floor + 1, exponent⟩
  match x.readsBack low, x.readsBack high with
  | false, false => none
  | true, false => some low
  | false, true => some high
  | true, true =>
    match compare (2 * numerator) ((2 * floor + 1) * denominator) with
    | .lt => some low
    | .gt => some high
    | .eq => if floor % 2 = 0 then some low else some high

/-- Moves the zeros at the end of the digits into the exponent. -/
def Scientific.stripZeros : (steps : Nat) → Scientific → Scientific
  | 0, d => d
  | steps + 1, d =>
    if d.digits % 10 = 0 then Scientific.stripZeros steps ⟨d.digits / 10, d.exponent + 1⟩ else d

/-- The exact value as a decimal. -/
def Binary.exact (x : Binary) : Scientific :=
  ⟨x.mantissa * twoPower x.exponent * Nat.pow 5 (-x.exponent).toNat, min x.exponent 0⟩

/-- The shortest decimal of a value other than zero: the grids of one, two, … seventeen digits in
turn. -/
def Binary.shortest (x : Binary) : Scientific :=
  let scale := x.scale
  match (List.range 17).findSome? fun n : Nat => x.nearestOnGrid? (scale - 1 - n) with
  | some d => d.stripZeros 20
  | none => x.exact

/-! ## Layout -/

/-- The digits with a point behind the first `whole` of them; zeros fill what is missing. -/
def layoutPositional (digits : List Char) (whole : Int) : List Char :=
  if whole ≤ 0 then
    '0' :: '.' :: List.replicate (-whole).toNat '0' ++ digits
  else if digits.length ≤ whole.toNat then
    digits ++ List.replicate (whole.toNat - digits.length) '0' ++ ['.', '0']
  else digits.take whole.toNat ++ '.' :: digits.drop whole.toNat

/-- The digits with the point behind the first one, and the exponent of ten behind `e`. -/
def layoutScientific (digits : List Char) (exponent : Int) : List Char :=
  let power := Nat.toDigits 10 exponent.natAbs
  let mantissa := match digits with
    | [d] => [d]
    | d :: rest => d :: '.' :: rest
    | [] => []
  mantissa ++ 'e' :: (if exponent < 0 then '-' else '+') ::
    (List.replicate (2 - power.length) '0' ++ power)

/-- The text of a decimal other than zero. -/
def Scientific.layout (d : Scientific) : List Char :=
  let digits := Nat.toDigits 10 d.digits
  let leading := d.exponent + digits.length - 1
  if -4 ≤ leading ∧ leading < 16 then layoutPositional digits (leading + 1)
  else layoutScientific digits leading

/-- The text of a floating number. -/
def floatText (x : Float) : String :=
  if x.isNaN then "nan"
  else
    let bits := x.toBits
    let sign := if bits >>> 63 = 1 then "-" else ""
    if x.isInf then sign ++ "inf"
    else
      let value := Binary.ofBits (bits &&& 0x7FFFFFFFFFFFFFFF)
      if value.mantissa = 0 then sign ++ "0.0"
      else sign ++ String.ofList value.shortest.layout

end StoryRules.Decimal
