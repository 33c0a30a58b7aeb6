import StoryRules.Proofs.Engine.Coupled
import StoryRules.Proofs.Engine.Invariant

/-!
# Games that differ in the puzzle in play

Only answers and hints look at the puzzle in play.  Two games that differ in nothing else go on alike for
as long as answers and hints meet the same puzzle in both, and entering a node makes an end of the
difference.

    a.Alike setup same b → SamePuzzles setup a b moves →
      (a.play setup moves).1 = (b.play setup moves).1      (Alike.play)
-/

namespace StoryRules

variable {α : Type}

/-- Two games differ in the puzzle in play at most, and not in that either if they are the `same`. -/
structure Game.Alike (setup : Setup α) (same : Prop) (a b : Game α) : Prop where
  state : a.state = b.state
  draws : a.draws = b.draws
  clock : a.clock = b.clock
  scored : a.scored = b.scored
  notes : a.notes = b.notes
  puzzle : same → a.activePuzzle? setup = b.activePuzzle? setup

/-- A step does not look at the puzzle in play. -/
abbrev Play.Overlooks {β : Type} (setup : Setup α) (same : Prop) (x : Play α β) : Prop :=
  Agrees (Game.Alike setup same) x x

variable {setup : Setup α} {same : Prop}

namespace Game

theorem activePuzzle?_congr {g g' : Game α} (hactive : g'.active = g.active)
    (hnode : g'.state.currentNode = g.state.currentNode) :
    g'.activePuzzle? setup = g.activePuzzle? setup := by
  unfold activePuzzle? currentNode?
  rw [hactive, hnode]

/-- The puzzles in play stay the same while games stand where they stood. -/
theorem Alike.stays {a b a' b' : Game α} (h : a.Alike setup same b)
    (hstate : a'.state = b'.state) (hnode : a'.state.currentNode = a.state.currentNode)
    (ha : a'.active = a.active) (hb : b'.active = b.active) :
    same → a'.activePuzzle? setup = b'.activePuzzle? setup := by
  intro hsame
  have hnode' : b'.state.currentNode = b.state.currentNode := by
    rw [← hstate, hnode, h.state]
  rw [activePuzzle?_congr ha hnode, activePuzzle?_congr hb hnode']
  exact h.puzzle hsame

end Game

variable [Number α]

/-- Effects leave alone where the game stands. -/
theorem Play.applyAll_currentNode (setup : Setup α) (effects : List (Effect α)) (scene : Scene α) :
    ((Effect.applyAll setup.story effects).run scene).2.state.currentNode =
      scene.state.currentNode := by
  have hkeeps : Keeps (Invariant.ofState fun s => s.currentNode = scene.state.currentNode).HoldsIn
      (Effect.applyAll setup.story effects) fun _ => True := by
    refine (Invariant.applied trivial trivial fun e _ => ⟨?_, ?_, ?_⟩).mono fun _ _ => trivial
    · exact fun s s' hs h => h.frame.1.trans hs
    · exact fun _ _ => trivial
    · exact fun _ _ => trivial
  have hscene : (Invariant.ofState fun s => s.currentNode = scene.state.currentNode).HoldsIn scene :=
    ⟨rfl, fun _ _ => trivial⟩
  exact (hkeeps scene hscene).1.state

/-- Effects go on alike in games that differ in the puzzle in play. -/
theorem Play.applyEffects_overlooks (effects : List (Effect α)) :
    Overlooks setup same (applyEffects setup effects) := by
  have hnoted : ∀ notes, Overlooks setup same
      (modify fun g : Game α => { g with notes := g.notes ++ notes }) :=
    fun notes => Agrees.update fun a b h => ⟨h.state, h.draws, h.clock, h.scored, by rw [h.notes], h.puzzle⟩
  unfold applyEffects
  refine Agrees.get_bind fun a b h => ?_
  rw [← h.state, ← h.draws, ← h.clock]
  have hnode := applyAll_currentNode setup effects
    { state := a.state, draws := a.draws, clock := a.clock }
  refine Agrees.bind (Agrees.set ⟨rfl, rfl, rfl, h.scored, h.notes, ?_⟩) fun _ => ?_
  · exact h.stays rfl hnode rfl rfl
  · refine Agrees.bind (hnoted _) fun _ => ?_
    refine Agrees.bind (Agrees.lift _) fun report => ?_
    exact Agrees.bind (hnoted _) fun _ => Agrees.pure report

/-- Games that differ in the puzzle in play at most are coupled: moving to a node puts the difference out of
play, and all else is done by what is the same in both. -/
theorem Game.Alike.couples : Couples setup (Game.Alike setup same) where
  state h := congrArg State.timeless h.state
  noted _ h := ⟨h.state, h.draws, h.clock, h.scored, by rw [h.notes], h.puzzle⟩
  told {a b} h := by
    refine ⟨h.state, h.draws, h.clock, h.scored, ?_, h.puzzle⟩
    show a.notes ++ [.event (.stateChanged a.state)] = b.notes ++ [.event (.stateChanged b.state)]
    rw [h.notes, h.state]
  draws h := h.draws
  scored h := h.scored
  counted _ h := ⟨h.state, h.draws, h.clock, rfl, h.notes, h.puzzle⟩
  drawn _ h := ⟨h.state, rfl, h.clock, h.scored, h.notes, h.puzzle⟩
  moved {a b} n h := by
    refine ⟨?_, h.draws, h.clock, h.scored, h.notes, fun _ => Game.activePuzzle?_congr rfl rfl⟩
    show { a.state.visit n.id with currentNode := n.id } = { b.state.visit n.id with currentNode := n.id }
    rw [h.state]
  raised _ h := ⟨h.state, h.draws, h.clock, h.scored, h.notes,
    fun _ => Game.activePuzzle?_congr rfl (congrArg State.currentNode h.state)⟩
  changed {a b f} hf h := by
    have hstate : f a.state = f b.state := by rw [h.state]
    exact ⟨hstate, h.draws, h.clock, h.scored, h.notes, h.stays hstate (hf.currentNode _) rfl rfl⟩
  timed {a b} puzzle h := by
    have hstate : (a.timed puzzle).state = (b.timed puzzle).state := by
      unfold Game.timed
      rw [h.state, h.clock]
    refine ⟨hstate, h.draws, ?_, h.scored, h.notes, h.stays hstate rfl rfl rfl⟩
    show a.clock.next.2 = b.clock.next.2
    rw [h.clock]
  applied := Play.applyEffects_overlooks

/-! ## Runs -/

/-- Answers and hints meet the same puzzles in two games. -/
def Game.SamePuzzles (setup : Setup α) (a b : Game α) : List (Move α) → Prop
  | [] => True
  | m :: rest => (m.usesPuzzle = true → a.activePuzzle? setup = b.activePuzzle? setup) ∧
    Game.SamePuzzles setup (a.move setup m).2 (b.move setup m).2 rest

namespace Game.Alike

theorem move {a b : Game α} (h : a.Alike setup same b) (m : Move α)
    (hm : m.usesPuzzle = true → a.activePuzzle? setup = b.activePuzzle? setup) :
    (a.move setup m).1 = (b.move setup m).1 ∧
      (a.move setup m).2.Alike setup same (b.move setup m).2 := by
  have hempty : Alike setup same { a with notes := [] } { b with notes := [] } :=
    ⟨h.state, h.draws, h.clock, h.scored, rfl, h.puzzle⟩
  have hblind : ∀ {same : Prop}, Alike setup same { a with notes := [] } { b with notes := [] } →
      Agrees (Alike setup same) (m.step setup) (m.step setup) →
      (a.move setup m).1 = (b.move setup m).1 ∧
        (a.move setup m).2.Alike setup same (b.move setup m).2 := by
    intro same hempty hagrees
    obtain ⟨hreply, hafter⟩ := hagrees _ _ hempty
    refine ⟨?_, hafter.state, hafter.draws, hafter.clock, hafter.scored, rfl, hafter.puzzle⟩
    rw [turn_eq, turn_eq, hreply, hafter.notes]
  have hseeing : m.usesPuzzle = true → Agrees (Alike setup True) (m.step setup) (m.step setup) →
      (a.move setup m).1 = (b.move setup m).1 ∧
        (a.move setup m).2.Alike setup same (b.move setup m).2 := by
    intro huses hagrees
    obtain ⟨hturn, hafter⟩ := hblind ⟨hempty.state, hempty.draws, hempty.clock, hempty.scored, rfl,
      fun _ => hm huses⟩ hagrees
    exact ⟨hturn, hafter.state, hafter.draws, hafter.clock, hafter.scored, hafter.notes,
      fun _ => hafter.puzzle trivial⟩
  cases huses : m.usesPuzzle with
  | true => exact hseeing huses (couples.move fun _ a b h => h.puzzle trivial)
  | false => exact hblind hempty (couples.move fun hsees => absurd (huses.symm.trans hsees) nofun)

theorem play (moves : List (Move α)) : ∀ {a b : Game α}, a.Alike setup same b →
    SamePuzzles setup a b moves → (a.play setup moves).1 = (b.play setup moves).1 ∧
      (a.play setup moves).2.Alike setup same (b.play setup moves).2 := by
  induction moves with
  | nil => exact fun h _ => ⟨rfl, h⟩
  | cons m rest ih =>
    intro a b h hsame
    obtain ⟨hturn, hafter⟩ := h.move m hsame.1
    obtain ⟨hturns, hend⟩ := ih hafter hsame.2
    refine ⟨?_, hend⟩
    show (a.move setup m).1 :: ((a.move setup m).2.play setup rest).1 =
      (b.move setup m).1 :: ((b.move setup m).2.play setup rest).1
    rw [hturn, hturns]

/-- Games with the same puzzle in play meet the same puzzles ever after. -/
theorem samePuzzles (moves : List (Move α)) : ∀ {a b : Game α}, a.Alike setup True b →
    SamePuzzles setup a b moves := by
  induction moves with
  | nil => exact fun _ => trivial
  | cons m rest ih =>
    intro a b h
    have hpuzzle := h.puzzle trivial
    exact ⟨fun _ => hpuzzle, ih (h.move m fun _ => hpuzzle).2⟩

end Game.Alike

end StoryRules
