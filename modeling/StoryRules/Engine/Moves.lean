import StoryRules.Engine

/-!
# Moves

What a player does, one thing after the other.  A move that meets a fault ends there, and play goes
on from the game that it left.
-/

namespace StoryRules

variable {α : Type} [Number α]

inductive Move (α : Type) where
  | start
  /-- Looks at the choices of the current node. -/
  | look
  | choose (index : Int)
  | solve (answer : Datum α) (timeMs : Option Int)
  | hint

/-- What a move is answered with. -/
inductive Reply (α : Type) where
  | started (found : Bool)
  | offered (found : List (Availability α))
  | chosen (r : ChoiceResult)
  | attempted (a : Attempt α)
  | hinted (hint : Option String)

def Move.step (setup : Setup α) : Move α → Play α (Reply α)
  | .start => .started <$> Play.start setup
  | .look => .offered <$> Play.choices setup
  | .choose index => .chosen <$> Play.choose setup index
  | .solve answer timeMs => .attempted <$> Play.solve setup answer timeMs
  | .hint => .hinted <$> Play.hint setup

/-- What came of a move, and what was noted during it. -/
structure Turn (α : Type) where
  reply : Except Fault (Reply α)
  notes : List (Note α)

/-- Makes a move. -/
def Game.move (setup : Setup α) (g : Game α) (m : Move α) : Turn α × Game α :=
  let (reply, after, notes) := g.run (m.step setup)
  (⟨reply, notes⟩, after)

/-- Makes moves one after the other. -/
def Game.play (setup : Setup α) (g : Game α) : List (Move α) → List (Turn α) × Game α
  | [] => ([], g)
  | m :: rest =>
    let (turn, g) := g.move setup m
    let (turns, g) := Game.play setup g rest
    (turn :: turns, g)

end StoryRules
