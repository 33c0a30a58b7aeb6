import StoryRules.Feed
import StoryRules.Number

/-!
# Weighted draws

One of several entries is drawn with a chance in proportion to its weight: one draw between zero and
one, scaled by the total of the positive weights, is used up by the weights one after the other.  An
entry without positive weight never wins, and where no weight is positive nothing is drawn.
-/

namespace StoryRules.Draw

variable {α : Type} [Number α]

/-- The weight where it is not negative, else zero. -/
def positivePart (weight : α) : α := Number.larger weight (Number.whole 0)

/-- The first position at which the positive weights use up the roll, counted from `i`. -/
def settle (i : Nat) (roll : α) : List α → Except Fault (Option Nat)
  | [] => .ok none
  | weight :: rest =>
    if Number.atMost weight (Number.whole 0) then settle (i + 1) roll rest
    else do
      let left ← Number.sub roll weight
      if Number.atMost left (Number.whole 0) then .ok (some i) else settle (i + 1) left rest

/-- The last position with a positive weight, counted from `i`. -/
def lastPositive? (i : Nat) : List α → Option Nat
  | [] => none
  | weight :: rest =>
    match lastPositive? (i + 1) rest with
    | some j => some j
    | none => if Number.isPositive weight then some i else none

/-- Turns a draw into a position; rounding may leave a rest of the roll, which goes to the last entry
that can win. -/
def position (weights : List α) (total draw : α) : Except Fault (Option Nat) := do
  let roll ← Number.mul draw total
  match ← settle 0 roll weights with
  | some i => .ok (some i)
  | none => .ok (lastPositive? 0 weights)

/-- Draws a position from a list of weights. -/
def pick (weights : List α) (draws : Feed α) : Except Fault (Option Nat) × Feed α :=
  let weights := weights.map positivePart
  match Number.sum weights with
  | .error fault => (.error fault, draws)
  | .ok total =>
    if Number.atMost total (Number.whole 0) then (.ok none, draws)
    else
      let (draw, draws) := draws.next
      (position weights total draw, draws)

end StoryRules.Draw
