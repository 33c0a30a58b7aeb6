import StoryRules.Proofs.Number

/-!
# Exact amounts

Rational numbers as amounts.  Sums, products and comparisons are exact, so all that is proved of
ordered and faithful amounts holds of them without exception.
-/

namespace StoryRules.Rational

/-- The integer that a rational number is equal to. -/
def whole? (a : Rat) : Option Int := if a.den = 1 then some a.num else none

/-- The value of a decimal numeral with a sign, a point and an exponent, all but the digits
optional. -/
def ofText? (digit? : Char → Option Nat) (s : String) : Option Rat :=
  let (negative, cs) := Decimal.takeSign s.toList
  let (whole, rest) := Decimal.takeDigits digit? cs
  let (fraction, rest) := match rest with
    | '.' :: after => Decimal.takeDigits digit? after
    | rest => ([], rest)
  if whole.isEmpty && fraction.isEmpty then none
  else (Decimal.exponent? digit? rest).map fun exponent =>
    let scale : Rat := (10 : Rat) ^ (exponent - (fraction.length : Int))
    let value := (Decimal.ofDigits (whole ++ fraction) : Rat) * scale
    if negative then -value else value

instance : Number Rat where
  whole n := n
  measure n := n
  add a b := .ok (a + b)
  sub a b := .ok (a - b)
  mul a b := .ok (a * b)
  div a b := a / b
  neg a := -a
  abs a := a.abs
  less a b := decide (a < b)
  same a b := decide (a = b)
  text? a := some (toString a)
  whole? := whole?
  toWhole a := match whole? a with
    | some n => .ok n
    | none => .error .fraction
  toMeasure? := some
  measureOfText? := ofText?

instance : FaithfulNumber Rat := ⟨fun _ => rfl⟩

instance : LegibleNumber Rat := ⟨fun _ => rfl⟩

theorem atMost_iff (a b : Rat) : Number.atMost a b = true ↔ a ≤ b := by
  rw [Rat.le_iff_lt_or_eq]
  simp [Number.atMost, Number.less, Number.same]

theorem ordered : Number.Ordered fun _ : Rat => True where
  whole _ := trivial
  refl a _ := (atMost_iff a a).2 Rat.le_refl
  trans a b c _ _ _ hab hbc := by
    rw [atMost_iff] at *
    exact Rat.le_trans hab hbc

theorem exact : Number.Exact fun _ : Rat => True where
  toOrdered := ordered
  add a b _ _ := ⟨a + b, rfl, trivial⟩
  sub a b _ _ := ⟨a - b, rfl, trivial⟩
  mul a b _ _ := ⟨a * b, rfl, trivial⟩
  not_less a b _ _ h := by
    rw [atMost_iff] at h
    exact decide_eq_false (Rat.not_lt.2 h)

end StoryRules.Rational
