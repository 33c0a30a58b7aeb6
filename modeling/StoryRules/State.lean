import StoryRules.Datum
import StoryRules.Story

/-!
# The state of play

Everything that changes while a story is played.  Entries that are missing from a table read as zero
or false.  The state knows ids and values only; what they mean is in the story.
-/

namespace StoryRules

/-- Progress on one puzzle. -/
structure Progress (α : Type) where
  solved : Bool := false
  attempts : Int := 0
  timeMs : Option Int := none
  score : Option α := none
  lastAnswer : Datum α := .null
  solvedAt : Option Int := none
  hintsUsed : Int := 0

structure State (α : Type) where
  currentNode : String
  /-- The nodes entered so far, each once. -/
  visited : List String := []
  inventory : Table Int := []
  currencies : Table α := []
  stats : Table α := []
  flags : Table Bool := []
  puzzles : Table (Progress α) := []
  /-- When each timer runs out, in milliseconds. -/
  timers : Table Int := []
  /-- The positions of the locked choices of each node. -/
  lockedChoices : Table (List Int) := []

namespace State

variable {α : Type}

/-- The state before a story is started: nothing held, stats at their start values. -/
def initial [Number α] (story : Story α) (start : Option String) : State α :=
  let first := match story.firstNode? with
    | some n => n.id
    | none => ""
  let node := match start with
    | none => first
    | some "" => first
    | some id => id
  { currentNode := node
    inventory := Table.ofEntries (story.items.map fun i => (i.id, 0))
    currencies := Table.ofEntries (story.currencies.map fun c => (c.id, Number.whole 0))
    stats := Table.ofEntries (story.stats.map fun s => (s.id, s.start)) }

def quantity (s : State α) (item : String) : Int := (s.inventory.get? item).getD 0

def currency [Number α] (s : State α) (id : String) : α :=
  (s.currencies.get? id).getD (Number.whole 0)

def stat [Number α] (s : State α) (id : String) : α :=
  (s.stats.get? id).getD (Number.whole 0)

def flag (s : State α) (name : String) : Bool := (s.flags.get? name).getD false

def hasVisited (s : State α) (node : String) : Bool := s.visited.contains node

/-- Adds a node to the visited ones. -/
def visit (s : State α) (node : String) : State α :=
  if s.hasVisited node then s else { s with visited := s.visited ++ [node] }

/-! ## Puzzles -/

/-- The record of a puzzle; a fresh one where there is none. -/
def progress (s : State α) (puzzle : String) : Progress α := (s.puzzles.get? puzzle).getD {}

/-- Makes sure that a puzzle has a record. -/
def openProgress (s : State α) (puzzle : String) : State α :=
  if s.puzzles.has puzzle then s else { s with puzzles := s.puzzles.put puzzle {} }

def setProgress (s : State α) (puzzle : String) (p : Progress α) : State α :=
  { s with puzzles := s.puzzles.put puzzle p }

def isSolved (s : State α) (puzzle : String) : Bool := (s.progress puzzle).solved

/-! ## Locks and timers -/

def locks (s : State α) (node : String) : List Int := (s.lockedChoices.get? node).getD []

def isLocked (s : State α) (node : String) (index : Int) : Bool := (s.locks node).contains index

/-- Whether a timer exists and has not run out. -/
def timerActive [Number α] (s : State α) (timer : String) (now : α) : Bool :=
  match s.timers.get? timer with
  | none => false
  | some end_ => Number.less now (Number.whole end_)

end State

end StoryRules
