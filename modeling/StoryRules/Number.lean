import StoryRules.Fault

/-!
# Numbers

What the rules need of an amount: currencies, stats, weights, tolerances and scores.  The rules are
written for any type of amounts, so that they can be run on floating numbers and reasoned about on
exact ones.  Sums, products and texts may fail, comparisons never do.
-/

namespace StoryRules

/-- Why an amount is no whole number. -/
inductive WholeProblem where
  | notFinite
  | fraction
  | tooLarge
  deriving Repr, DecidableEq

class Number (α : Type) where
  /-- A whole number. -/
  whole : Int → α
  /-- A count as a measured amount, such as a score. -/
  measure : Nat → α
  add : α → α → Except Fault α
  sub : α → α → Except Fault α
  mul : α → α → Except Fault α
  /-- The quotient; the divisor is above zero. -/
  div : α → α → α
  neg : α → α
  abs : α → α
  less : α → α → Bool
  same : α → α → Bool
  /-- The amount as it is written, unless it has too many digits. -/
  text? : α → Option String
  /-- The integer, if the amount is kept as one. -/
  whole? : α → Option Int
  /-- The integer that the amount is equal to. -/
  toWhole : α → Except WholeProblem Int
  /-- The amount as a measured one. -/
  toMeasure? : α → Option α
  /-- The measured amount that a text writes, with the given digits. -/
  measureOfText? : (digit? : Char → Option Nat) → String → Option α

namespace Number

variable {α : Type} [Number α]

def atMost (a b : α) : Bool := less a b || same a b

/-- The larger of two, the first if neither is larger. -/
def larger (a b : α) : α := if less a b then b else a

/-- The smaller of two, the first if neither is smaller. -/
def smaller (a b : α) : α := if less b a then b else a

def isPositive (a : α) : Bool := less (whole 0) a

/-- Whether an amount is a number, and not infinite. -/
def isFinite (a : α) : Bool :=
  match toWhole a with
  | .error .notFinite => false
  | _ => true

/-- Whether two amounts are equal, or neither is a number. -/
def alike (a b : α) : Bool := same a b || (!same a a && !same b b)

/-- Sum from left to right, starting at `start`. -/
def sumFrom (start : α) : List α → Except Fault α
  | [] => .ok start
  | a :: rest => do sumFrom (← add start a) rest

def sum (amounts : List α) : Except Fault α := sumFrom (whole 0) amounts

/-- The amount inside a message; one with too many digits is a fault. -/
def text (a : α) : Except Fault String :=
  match text? a with
  | some written => .ok written
  | none => .error .unwritable

/-- A whole number inside a message. -/
def wholeText (α : Type) [Number α] (n : Int) : Except Fault String := text (whole n : α)

/-- `hits` out of `total`, for a total above zero. -/
def ratio (hits total : Nat) : α := div (measure hits) (measure total)

end Number

end StoryRules
