import StoryRules.State

/-!
# States against their story

`problems` lists what a state says that its story does not know or allow; `summary` counts.
-/

namespace StoryRules.State

variable {α : Type} [Number α]

def itemProblems (story : Story α) (entry : String × Int) : List (Except Fault String) :=
  (if (story.item? entry.1).isNone then [.ok ("Inventory contains undefined item: " ++ entry.1)]
    else []) ++
  if entry.2 < 0 then
    [(Number.wholeText α entry.2).map fun quantity =>
      "Item " ++ entry.1 ++ " has negative quantity " ++ quantity]
  else []

def currencyProblems (story : Story α) (entry : String × α) : List (Except Fault String) :=
  (if (story.currency? entry.1).isNone then [.ok ("State contains undefined currency: " ++ entry.1)]
    else []) ++
  if Number.less entry.2 (Number.whole 0) then
    [(Number.text entry.2).map fun amount =>
      "Currency " ++ entry.1 ++ " has negative amount " ++ amount]
  else []

def statProblems (story : Story α) (entry : String × α) : List (Except Fault String) :=
  match story.stat? entry.1 with
  | none => [.ok ("State contains undefined stat: " ++ entry.1)]
  | some stat =>
    if Number.less entry.2 stat.min || Number.less stat.max entry.2 then
      [do
        let value ← Number.text entry.2
        let low ← Number.text stat.min
        let high ← Number.text stat.max
        return "Stat " ++ entry.1 ++ " value " ++ value ++ " is out of bounds [" ++ low ++ ", " ++
          high ++ "]"]
    else []

/-- The problems of a state, each as far as its numbers can be written. -/
def problems (s : State α) (story : Story α) : List (Except Fault String) :=
  (if (story.node? s.currentNode).isNone then [.ok ("Current node not found: " ++ s.currentNode)]
    else []) ++
  s.inventory.flatMap (itemProblems story) ++ s.currencies.flatMap (currencyProblems story) ++
    s.stats.flatMap (statProblems story)

/-- The problems of a state that can be written. -/
def check (s : State α) (story : Story α) : List String :=
  (s.problems story).filterMap Except.toOption

/-- All problems of a state; one that cannot be written is a fault. -/
def report (s : State α) (story : Story α) : Except Fault (List String) :=
  (s.problems story).mapM id

structure Summary (α : Type) where
  currentNode : String
  visitedCount : Nat
  itemCount : Int
  totalCurrency : α
  puzzlesSolved : Nat
  puzzlesTotal : Nat
  activeTimers : Nat

def summary (s : State α) (now : α) : Except Fault (Summary α) := do
  let total ← Number.sum s.currencies.values
  .ok { currentNode := s.currentNode
        visitedCount := s.visited.length
        itemCount := s.inventory.values.foldl (· + ·) 0
        totalCurrency := total
        puzzlesSolved := (s.puzzles.values.filter Progress.solved).length
        puzzlesTotal := s.puzzles.length
        activeTimers := (s.timers.values.filter fun t => Number.less now (Number.whole t)).length }

end StoryRules.State
