import StoryRules.Effect.Apply
import StoryRules.Puzzle.Score
import StoryRules.State

/-!
# Events

What an engine tells its listeners while a story is played.
-/

namespace StoryRules

inductive EventKind where
  | nodeEntered
  | choiceSelected
  | puzzleStarted
  | puzzleCompleted
  | effectsApplied
  | stateChanged
  | gameEnded
  deriving Repr, DecidableEq

namespace EventKind

def name : EventKind → String
  | .nodeEntered => "node_entered"
  | .choiceSelected => "choice_selected"
  | .puzzleStarted => "puzzle_started"
  | .puzzleCompleted => "puzzle_completed"
  | .effectsApplied => "effects_applied"
  | .stateChanged => "state_changed"
  | .gameEnded => "game_ended"

def all : List EventKind :=
  [.nodeEntered, .choiceSelected, .puzzleStarted, .puzzleCompleted, .effectsApplied,
   .stateChanged, .gameEnded]

def ofName? (name : String) : Option EventKind := all.find? fun kind => kind.name = name

/-- What is said of a name that no kind of event has. -/
def unknownText (name : String) : String :=
  Text.quoted name ++ " is not a valid EventType"

end EventKind

inductive Event (α : Type) where
  | nodeEntered (n : Node α)
  | choiceSelected (c : Choice α) (index : Nat)
  | puzzleStarted (p : Puzzle α)
  | puzzleCompleted (p : Puzzle α) (score : Score α)
  | effectsApplied (report : EffectReport)
  /-- The state after the change. -/
  | stateChanged (s : State α)
  | gameEnded (n : Node α)

def Event.kind {α : Type} : Event α → EventKind
  | .nodeEntered _ => .nodeEntered
  | .choiceSelected .. => .choiceSelected
  | .puzzleStarted _ => .puzzleStarted
  | .puzzleCompleted .. => .puzzleCompleted
  | .effectsApplied _ => .effectsApplied
  | .stateChanged _ => .stateChanged
  | .gameEnded _ => .gameEnded

end StoryRules
