import StoryRules.Config
import StoryRules.Event

/-!
# Games in play

A game is the state of play with what the engine needs besides: the puzzle in play, the random draws
and the clock.  `Play` is a step of a game that may meet a fault; what was done up to the fault stays
done.  Log lines and events are noted in the order in which they occur.
-/

namespace StoryRules

/-- Scores answers; an exception is given by its text. -/
abbrev Scorer (α : Type) := Puzzle α → Datum α → Except String (Score α) × List LogLine

/-- What stays the same while a story is played. -/
structure Setup (α : Type) where
  story : Story α
  config : Config := {}
  /-- What scores the answers, one after the other. -/
  scorer : Feed (Scorer α)

inductive Note (α : Type) where
  | log (line : LogLine)
  | event (e : Event α)

structure Game (α : Type) where
  state : State α
  /-- The puzzle of the node entered last, with its drawn variant. -/
  active : Option (Puzzle α) := none
  draws : Feed α
  clock : Feed Int
  /-- How many answers were scored. -/
  scored : Nat := 0
  notes : List (Note α) := []

abbrev Play (α : Type) := ExceptT Fault (StateM (Game α))

variable {α : Type} [Number α]

/-- The scorer that compares with the puzzle's own key. -/
def Scorer.standard (language : PatternLanguage) : Scorer α := fun p answer =>
  match p.score language answer with
  | .ok (score, log) => (.ok score, log)
  | .error fault => (.error fault.message, [])

/-- The state in which a story is started. -/
def Setup.initialState (setup : Setup α) : State α :=
  State.initial setup.story setup.config.startNode

/-- The scorer that is asked next. -/
def Game.scorer (g : Game α) (setup : Setup α) : Scorer α := setup.scorer.value g.scored

namespace Play

def note (n : Note α) : Play α Unit :=
  modify fun g => { g with notes := g.notes ++ [n] }

def log (line : LogLine) : Play α Unit := note (.log line)

def logAll (lines : List LogLine) : Play α Unit :=
  modify fun g => { g with notes := g.notes ++ lines.map .log }

def emit (e : Event α) : Play α Unit := note (.event e)

def change (f : State α → State α) : Play α Unit :=
  modify fun g => { g with state := f g.state }

def state : Play α (State α) := do return (← get).state

def emitState : Play α Unit := do emit (.stateChanged (← state))

/-- Draws a position from a list of weights. -/
def draw (weights : List α) : Play α (Option Nat) := do
  let g ← get
  let (result, draws) := Draw.pick weights g.draws
  set { g with draws }
  liftM result

/-- Scores an answer. -/
def score (setup : Setup α) (p : Puzzle α) (answer : Datum α) : Play α (Except String (Score α)) := do
  let g ← get
  let (result, lines) := g.scorer setup p answer
  set { g with scored := g.scored + 1 }
  logAll (lines.map .ofScorer)
  return result

/-- Reads the clock. -/
def now : Play α Int := do
  let g ← get
  let (time, clock) := g.clock.next
  set { g with clock }
  return time

/-- Applies effects and tells of it. -/
def applyEffects (setup : Setup α) (effects : List (Effect α)) : Play α EffectReport := do
  let g ← get
  let (result, scene) :=
    (Effect.applyAll setup.story effects).run { state := g.state, draws := g.draws, clock := g.clock }
  set { g with state := scene.state, draws := scene.draws, clock := scene.clock }
  logAll scene.log
  let report ← liftM result
  emit (.effectsApplied report)
  return report

/-- Applies effects if there are any. -/
def applyAny (setup : Setup α) (effects : List (Effect α)) : Play α (Option EffectReport) := do
  if effects.isEmpty then return none else some <$> applyEffects setup effects

end Play

namespace Game

def currentNode? (g : Game α) (setup : Setup α) : Option (Node α) :=
  setup.story.node? g.state.currentNode

/-- The puzzle of the current node: the one in play, if it belongs there. -/
def activePuzzle? (g : Game α) (setup : Setup α) : Option (Puzzle α) :=
  match (g.currentNode? setup).bind (·.puzzle) with
  | none => none
  | some p => match g.active with
    | some q => if q.id = p.id then some q else some p
    | none => some p

def isEnded (g : Game α) (setup : Setup α) : Bool :=
  match g.currentNode? setup with
  | some n => n.isEnding
  | none => false

end Game

end StoryRules
