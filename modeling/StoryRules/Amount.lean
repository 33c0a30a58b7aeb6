import StoryRules.Number
import StoryRules.Decimal.Numeral
import StoryRules.Decimal.Shortest

/-!
# Amounts

The numbers of a running story: whole numbers of any size, and floating numbers.  Two whole numbers
give a whole number; as soon as a floating number takes part the result is floating, and a whole
number too large for that is a fault.  Comparisons are exact across both kinds.
-/

namespace StoryRules

inductive Amount where
  | int (n : Int)
  | float (x : Float)

namespace Amount

/-- The nearest floating number. -/
def ofIntFloat? (n : Int) : Option Float :=
  let x := Float.ofInt n
  if x.isInf then none else some x

def toFloat : Amount → Except Fault Float
  | .float x => .ok x
  | .int n => match ofIntFloat? n with
    | some x => .ok x
    | none => .error .amountTooLarge

/-! ## Order -/

/-- A finite floating number as `significand * 2 ^ exponent`. -/
def dyadic (x : Float) : Int × Int :=
  let bits := x.toBits
  let value := Decimal.Binary.ofBits (bits &&& 0x7FFFFFFFFFFFFFFF)
  (if bits >>> 63 = 1 then -value.mantissa else value.mantissa, value.exponent)

/-- Compares a whole with a floating number, exactly; nothing compares with a number that is none. -/
def compareFloat? (n : Int) (x : Float) : Option Ordering :=
  if x.isNaN then none
  else if x.isInf then some (if x > 0.0 then .lt else .gt)
  else
    let (significand, exponent) := dyadic x
    some (compare (n * Decimal.twoPower (-exponent)) (significand * Decimal.twoPower exponent))

def compare? : Amount → Amount → Option Ordering
  | .int m, .int n => some (compare m n)
  | .int m, .float y => compareFloat? m y
  | .float x, .int n => (compareFloat? n x).map Ordering.swap
  | .float x, .float y =>
    if x < y then some .lt else if x == y then some .eq else if y < x then some .gt else none

/-! ## Arithmetic -/

/-- Combines two amounts, in whole numbers if both are whole. -/
def combine (onInt : Int → Int → Int) (onFloat : Float → Float → Float) :
    Amount → Amount → Except Fault Amount
  | .int m, .int n => .ok (.int (onInt m n))
  | a, b => do
    let x ← a.toFloat
    let y ← b.toFloat
    .ok (.float (onFloat x y))

def div (a b : Amount) : Amount :=
  match a.toFloat, b.toFloat with
  | .ok x, .ok y => .float (x / y)
  | _, _ => .float (0.0 / 0.0)

def neg : Amount → Amount
  | .int n => .int (-n)
  | .float x => .float (-x)

def abs : Amount → Amount
  | .int n => .int n.natAbs
  | .float x => .float x.abs

/-! ## Text and kinds -/

/-- Whether a whole number has no more digits than are written. -/
def isShort (n : Int) : Bool := n.natAbs < Nat.pow 10 digitLimit

def text? : Amount → Option String
  | .int n => if isShort n then some (toString n) else none
  | .float x => some (Decimal.floatText x)

def whole? : Amount → Option Int
  | .int n => some n
  | .float _ => none

/-- The integer that a floating number is equal to; below `2 ^ 63` in magnitude. -/
def wholeOfFloat (x : Float) : Except WholeProblem Int :=
  if x.isNaN || x.isInf then .error .notFinite
  else
    let (significand, exponent) := dyadic x
    let divisor : Int := Decimal.twoPower (-exponent)
    if significand % divisor ≠ 0 then .error .fraction
    else
      let value := significand / divisor * Decimal.twoPower exponent
      if value.natAbs < 0x8000000000000000 then .ok value else .error .tooLarge

def toWhole : Amount → Except WholeProblem Int
  | .int n => .ok n
  | .float x => wholeOfFloat x

def toMeasure? : Amount → Option Amount
  | .float x => some (.float x)
  | .int n => (ofIntFloat? n).map .float

end Amount

instance : Number Amount where
  whole := .int
  measure n := .float (Float.ofNat n)
  add := Amount.combine (· + ·) (· + ·)
  sub := Amount.combine (· - ·) (· - ·)
  mul := Amount.combine (· * ·) (· * ·)
  div := Amount.div
  neg := Amount.neg
  abs := Amount.abs
  less a b := a.compare? b = some .lt
  same a b := a.compare? b = some .eq
  text? := Amount.text?
  whole? := Amount.whole?
  toWhole := Amount.toWhole
  toMeasure? := Amount.toMeasure?
  measureOfText? digit? s := (Decimal.real? digit? s).map .float

end StoryRules
