import StoryRules.Weighted

/-!
# Effects

An effect changes the state of play or asks for a jump.  Effects come in lists and are applied in
order; a loot table draws one bundle of further effects, so lists nest.  `walk` lists an effect list
with everything nested in it.
-/

namespace StoryRules

inductive Effect (α : Type) where
  | addItem (item : String) (quantity : Int)
  | removeItem (item : String) (quantity : Int)
  | addCurrency (currency : String) (value : α)
  | addStat (stat : String) (value : α)
  | setFlag (flag : String) (value : Bool)
  | log (message : String)
  /-- Asks the caller to jump to a node. -/
  | goto (target : String)
  | unlockChoice (node : String) (index : Int)
  | lockChoice (node : String) (index : Int)
  /-- Sets a timer to run out this many milliseconds from now. -/
  | setTimer (timer : String) (duration : Int)
  /-- Draws one entry and applies its effects. -/
  | lootTable (table : List (Weighted α (List (Effect α))))

abbrev LootEntry (α : Type) := Weighted α (List (Effect α))

namespace Effect

variable {α : Type}

mutual

/-- The effect itself, and what is nested in it. -/
def walkOne : Effect α → List (Effect α)
  | .lootTable table => .lootTable table :: walkEntries table
  | e => [e]

/-- Every effect of a list, each followed by the effects of its entries. -/
def walk : List (Effect α) → List (Effect α)
  | [] => []
  | e :: rest => walkOne e ++ walk rest

def walkEntries : List (Weighted α (List (Effect α))) → List (Effect α)
  | [] => []
  | ⟨_, effects⟩ :: rest => walk effects ++ walkEntries rest

end

/-- The name of the operation. -/
def op : Effect α → String
  | .addItem .. => "add_item"
  | .removeItem .. => "remove_item"
  | .addCurrency .. => "add_currency"
  | .addStat .. => "add_stat"
  | .setFlag .. => "set_flag"
  | .log .. => "log"
  | .goto .. => "goto"
  | .unlockChoice .. => "unlock_choice"
  | .lockChoice .. => "lock_choice"
  | .setTimer .. => "set_timer"
  | .lootTable .. => "loot_table"

/-- The names of all operations. -/
def ops : List String :=
  ["add_item", "remove_item", "add_currency", "add_stat", "set_flag", "log", "goto",
   "unlock_choice", "lock_choice", "set_timer", "loot_table"]

end Effect

end StoryRules
