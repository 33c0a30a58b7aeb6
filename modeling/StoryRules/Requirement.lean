/-!
# Requirements

A requirement is a Boolean expression over conditions on the state of play.  The parts of a
condition may be missing; such a condition is incomplete and counts as false.
-/

namespace StoryRules

inductive Condition (α : Type) where
  /-- At least `quantity` of an item is held. -/
  | hasItem (item : Option String) (quantity : Option Int)
  /-- Fewer than `quantity` of an item are held. -/
  | inventoryLt (item : Option String) (quantity : Option Int)
  | currencyGte (currency : Option String) (value : Option α)
  | currencyLt (currency : Option String) (value : Option α)
  | statGte (stat : Option String) (value : Option α)
  /-- A stat lies in a range that includes both ends. -/
  | statBetween (stat : Option String) (low high : Option α)
  | flagIs (flag : Option String) (value : Option Bool)
  | puzzleSolved (puzzle : Option String)
  | visitedNode (node : Option String)

inductive Requirement (α : Type) where
  | allOf (parts : List (Requirement α))
  | anyOf (parts : List (Requirement α))
  | not (part : Requirement α)
  | condition (c : Condition α)

namespace Requirement

variable {α : Type}

mutual

/-- The conditions of an expression from left to right. -/
def conditions : Requirement α → List (Condition α)
  | .allOf parts => conditionsOfAll parts
  | .anyOf parts => conditionsOfAll parts
  | .not part => conditions part
  | .condition c => [c]

def conditionsOfAll : List (Requirement α) → List (Condition α)
  | [] => []
  | part :: rest => conditions part ++ conditionsOfAll rest

end

end Requirement

/-- The conditions of an optional requirement. -/
def Requirement.conditions? {α : Type} (requirement : Option (Requirement α)) :
    List (Condition α) :=
  match requirement with
  | none => []
  | some r => r.conditions

namespace Condition

variable {α : Type}

/-- The name of the test. -/
def op : Condition α → String
  | .hasItem .. => "has_item"
  | .inventoryLt .. => "inventory_lt"
  | .currencyGte .. => "currency_gte"
  | .currencyLt .. => "currency_lt"
  | .statGte .. => "stat_gte"
  | .statBetween .. => "stat_between"
  | .flagIs .. => "flag_is"
  | .puzzleSolved .. => "puzzle_solved"
  | .visitedNode .. => "visited_node"

/-- The names of all tests. -/
def ops : List String :=
  ["has_item", "inventory_lt", "currency_gte", "currency_lt", "stat_gte", "stat_between",
   "flag_is", "puzzle_solved", "visited_node"]

/-- The name of a part, if the part is missing. -/
def gap {β : Type} (name : String) : Option β → List String
  | none => [name]
  | some _ => []

/-- The names of the parts that are missing. -/
def missing : Condition α → List String
  | .hasItem item quantity => gap "item_id" item ++ gap "qty" quantity
  | .inventoryLt item quantity => gap "item_id" item ++ gap "qty" quantity
  | .currencyGte currency value => gap "currency_id" currency ++ gap "value" value
  | .currencyLt currency value => gap "currency_id" currency ++ gap "value" value
  | .statGte stat value => gap "stat_id" stat ++ gap "value" value
  | .statBetween stat low high => gap "stat_id" stat ++ gap "min" low ++ gap "max" high
  | .flagIs flag value => gap "flag" flag ++ gap "value" value
  | .puzzleSolved puzzle => gap "puzzle_id" puzzle
  | .visitedNode node => gap "node_id" node

end Condition

end StoryRules
