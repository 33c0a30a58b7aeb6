import StoryRules.Log
import StoryRules.Requirement
import StoryRules.State
import StoryRules.Unchecked

/-!
# Evaluating requirements

An expression is evaluated from left to right and no further than needed.  An incomplete condition
counts as false and leaves a warning.
-/

namespace StoryRules

variable {α : Type} [Number α]

namespace Condition

/-- What a complete condition says of a state.  An incomplete one is false. -/
def holds (s : State α) : Condition α → Bool
  | .hasItem (some item) (some quantity) => quantity ≤ s.quantity item
  | .inventoryLt (some item) (some quantity) => s.quantity item < quantity
  | .currencyGte (some currency) (some value) => Number.atMost value (s.currency currency)
  | .currencyLt (some currency) (some value) => Number.less (s.currency currency) value
  | .statGte (some stat) (some value) => Number.atMost value (s.stat stat)
  | .statBetween (some stat) (some low) (some high) =>
    Number.atMost low (s.stat stat) && Number.atMost (s.stat stat) high
  | .flagIs (some flag) (some value) => s.flag flag = value
  | .puzzleSolved (some puzzle) => s.isSolved puzzle
  | .visitedNode (some node) => s.hasVisited node
  | _ => false

/-- What is said of an incomplete condition. -/
def warning (c : Condition α) : String :=
  "Requirement '" ++ c.op ++ "' is missing " ++ String.intercalate ", " c.missing ++
    "; treating as false"

/-- The value of a condition, with a warning if it is incomplete. -/
def test (s : State α) (c : Condition α) : Bool × List String :=
  if c.missing.isEmpty then (c.holds s, []) else (false, [c.warning])

end Condition

namespace Requirement

mutual

/-- The value of an expression, and the warnings of the incomplete conditions that were reached. -/
def evaluate (s : State α) : Requirement α → Bool × List String
  | .allOf parts => evaluateAll s parts
  | .anyOf parts => evaluateAny s parts
  | .not part =>
    let (value, warnings) := evaluate s part
    (!value, warnings)
  | .condition c => c.test s

/-- Whether all parts are true, up to the first that is not. -/
def evaluateAll (s : State α) : List (Requirement α) → Bool × List String
  | [] => (true, [])
  | part :: rest =>
    let (value, warnings) := evaluate s part
    if value then
      let (value, more) := evaluateAll s rest
      (value, warnings ++ more)
    else (false, warnings)

/-- Whether some part is true, up to the first that is. -/
def evaluateAny (s : State α) : List (Requirement α) → Bool × List String
  | [] => (false, [])
  | part :: rest =>
    let (value, warnings) := evaluate s part
    if value then (true, warnings)
    else
      let (value, more) := evaluateAny s rest
      (value, warnings ++ more)

end

/-- An absent requirement is met. -/
def evaluate? (s : State α) : Option (Requirement α) → Bool × List String
  | none => (true, [])
  | some r => r.evaluate s

/-- What is said of an unknown test. -/
def unknownWarning (tag : Datum α) : String :=
  "Unknown requirement operation: " ++ tag.quoted

/-- An unknown test counts as false and leaves a warning. -/
def evaluateUnchecked (s : State α) : Unchecked α (Option (Requirement α)) → Bool × List String
  | .known r => evaluate? s r
  | .unknown tag => (false, [unknownWarning tag])

/-- The log of some warnings. -/
def logOf (warnings : List String) : List LogLine :=
  warnings.map fun w => .plain .warning w

end Requirement

end StoryRules
