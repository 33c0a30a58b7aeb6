import StoryRules.Engine.Choices
import StoryRules.Engine.Puzzles
import StoryRules.State.Merge

/-!
# Engines

An engine plays one story: it is started, choices are taken and puzzles are solved, and its state can
be replaced by a snapshot or by a fresh one.  Every operation is a step of the game.
-/

namespace StoryRules

variable {α : Type} [Number α]

/-- The game before anything happened, in a given state or in the initial one. -/
def Setup.newGame (setup : Setup α) (state : Option (State α)) (draws : Feed α)
    (clock : Feed Int) : Game α :=
  { state := state.getD setup.initialState, draws, clock }

namespace Play

/-- Enters the current node. -/
def start (setup : Setup α) : Play α Bool := do enterNode setup (← state).currentNode

/-- Puts the game into a state; a drawn variant is forgotten. -/
def restart (s : State α) : Play α Unit := do
  modify fun g => { g with state := s, active := none }
  emitState

def reset (setup : Setup α) : Play α Unit := restart setup.initialState

/-- Whether a timer has not run out by the clock. -/
def timerActive (timer : String) : Play α Bool := do
  let time ← now
  return (← state).timerActive timer (Number.whole time)

/-- Loads a snapshot; one that cannot be restored changes nothing. -/
def load (snapshot : Except RestoreError (State α)) : Play α (Except RestoreError Unit) := do
  match snapshot with
  | .ok s =>
    restart s
    return .ok ()
  | .error e => return .error e

/-- Loads the state with updates merged into it. -/
def edit (updates : Table (Datum α)) : Play α (Except MergeError Unit) := do
  match (← state).merge updates with
  | .ok s =>
    restart s
    return .ok ()
  | .error e => return .error e

end Play

/-- Sets the clock to a time at which it stays. -/
def Game.setClock (g : Game α) (time : Int) : Game α := { g with clock := .always time }

/-- Runs a step from a game without notes; the result, the game after it, and its notes. -/
def Game.run {β : Type} (g : Game α) (step : Play α β) :
    Except Fault β × Game α × List (Note α) :=
  let (result, after) := step.run { g with notes := [] }
  (result, { after with notes := [] }, after.notes)

end StoryRules
