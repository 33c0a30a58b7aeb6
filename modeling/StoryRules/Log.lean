/-!
# Log lines

What an operation reports besides its result.
-/

namespace StoryRules

inductive LogLevel where
  | debug
  | info
  | warning
  | error
  deriving Repr, DecidableEq

namespace LogLevel

def name : LogLevel → String
  | .debug => "DEBUG"
  | .info => "INFO"
  | .warning => "WARNING"
  | .error => "ERROR"

/-- Levels are ordered by these numbers. -/
def rank : LogLevel → Nat
  | .debug => 10
  | .info => 20
  | .warning => 30
  | .error => 40

end LogLevel

/-- A line of the log, by what it reports. -/
inductive LogLine where
  /-- A line in words of its own. -/
  | plain (level : LogLevel) (text : String)
  | itemMissing (id : String)
  | statMissing (id : String)
  | lootEmpty
  | lootWeightless
  | operationUnknown (tag : String)
  | nodeMissing (id : String)
  | nodeEntered (node : String)
  /-- Entry effects ask for a jump to a node that does not exist. -/
  | entryJumpMissing (node target : String)
  | redirected (node target : String)
  | redirectLimit (depth : Int) (node target : String)
  | variantInvalid (puzzle : String)
  | variantRenames (puzzle name : String)
  | choiceMissing (index : Int) (node : String)
  | choiceUnavailable (index : Int) (node reason : String)
  /-- The effects of a choice ask for a jump to a node that does not exist. -/
  | choiceJumpMissing (index : Nat) (node target next : String)
  | noPuzzle
  | scoringFailed (puzzle : String)
  | hintUnaffordable (puzzle : String)
  | patternInvalid (puzzle message : String)
  /-- What a scorer logs. -/
  | ofScorer (line : LogLine)
  deriving Repr, DecidableEq

namespace LogLine

def level : LogLine → LogLevel
  | .plain level _ => level
  | .nodeMissing _ | .redirectLimit .. | .variantInvalid _ | .scoringFailed _ => .error
  | .nodeEntered _ | .redirected .. => .debug
  | .hintUnaffordable _ => .info
  | .ofScorer line => line.level
  | _ => .warning

def text : LogLine → String
  | .plain _ text => text
  | .itemMissing id => "Item not found: " ++ id
  | .statMissing id => "Stat not found: " ++ id
  | .lootEmpty => "Invalid loot_table effect: empty table"
  | .lootWeightless => "Invalid loot_table effect: total weight is zero"
  | .operationUnknown tag => "Unknown effect operation: " ++ tag
  | .nodeMissing id => "Node not found: " ++ id
  | .nodeEntered node => "Entered node '" ++ node ++ "'"
  | .entryJumpMissing node target =>
    "Node '" ++ node ++ "' on_enter jumps to unknown node '" ++ target ++ "'; ignoring"
  | .redirected node target => "Redirecting from '" ++ node ++ "' to '" ++ target ++ "'"
  | .redirectLimit depth node target =>
    "Redirect limit of " ++ toString depth ++ " reached at node '" ++ node ++
      "'; not following jump to '" ++ target ++ "'"
  | .variantInvalid puzzle =>
    "Puzzle '" ++ puzzle ++ "' variant override is invalid; using base puzzle"
  | .variantRenames puzzle name =>
    "Puzzle '" ++ puzzle ++ "' variant renames it to '" ++ name ++ "'; keeping the base id"
  | .choiceMissing index node =>
    "Invalid choice index " ++ toString index ++ " on node '" ++ node ++ "'"
  | .choiceUnavailable index node reason =>
    "Choice " ++ toString index ++ " on node '" ++ node ++ "' not available: " ++ reason
  | .choiceJumpMissing index node target next =>
    "Choice " ++ toString index ++ " on node '" ++ node ++ "' jumps to unknown node '" ++
      target ++ "'; using '" ++ next ++ "'"
  | .noPuzzle => "solve_puzzle called with no active puzzle"
  | .scoringFailed puzzle => "Scoring failed for puzzle '" ++ puzzle ++ "'"
  | .hintUnaffordable puzzle => "Cannot afford hint for puzzle '" ++ puzzle ++ "'"
  | .patternInvalid puzzle message =>
    "Puzzle '" ++ puzzle ++ "' has an invalid regex: " ++ message
  | .ofScorer line => line.text

end LogLine

end StoryRules
