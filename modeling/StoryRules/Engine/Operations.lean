import StoryRules.Engine.Moves

/-!
# Operations

What is done with an engine: the player's moves, and besides them the state is replaced, by a snapshot or
by a fresh one, and timers are looked up.
-/

namespace StoryRules

variable {α : Type} [Number α]

inductive Operation (α : Type) where
  | move (m : Move α)
  /-- Asks whether a timer is running. -/
  | timer (name : String)
  | load (snapshot : Except RestoreError (State α))
  | reset

/-- What an operation is answered with. -/
inductive Answer (α : Type) where
  | moved (r : Reply α)
  | timed (running : Bool)
  | loaded (result : Except RestoreError Unit)
  | reset

def Operation.step (setup : Setup α) : Operation α → Play α (Answer α)
  | .move m => .moved <$> m.step setup
  | .timer name => .timed <$> Play.timerActive name
  | .load snapshot => .loaded <$> Play.load snapshot
  | .reset => (fun _ => .reset) <$> Play.reset setup

/-- The game that operations leave; one that meets a fault ends there, and the next goes on from the game
that it left. -/
def Game.operate (setup : Setup α) (g : Game α) (operations : List (Operation α)) : Game α :=
  operations.foldl (fun g operation => (g.run (operation.step setup)).2.1) g

end StoryRules
