import StoryRules.Proofs.Effect.Pairs
import StoryRules.Proofs.Engine.Coupled

/-!
# The clock is only written down

Play writes down when a timer runs out and when a puzzle was solved, and never looks at it.  Games that
differ in their clocks, and in what was written down of them, are answered alike, tell of the same things and
go on to differ in nothing else.

    (g.play setup moves).1.map Turn.timeless = ({ g with clock }.play setup moves).1.map Turn.timeless
                                                                                     (play_timeless)
-/

namespace StoryRules

variable {α : Type}

/-! ## What is told, without times -/

def Event.timeless : Event α → Event α
  | .stateChanged s => .stateChanged s.timeless
  | e => e

def Note.timeless : Note α → Note α
  | .event e => .event e.timeless
  | .log line => .log line

/-- A turn is answered by nothing that has to do with times, but the states that it tells do. -/
def Turn.timeless (turn : Turn α) : Turn α := { turn with notes := turn.notes.map Note.timeless }

/-! ## Games and scenes that differ in times -/

/-- Two scenes differ in their clocks and in the times in their states at most. -/
structure Scene.SameButTimes (a b : Scene α) : Prop where
  state : a.state.timeless = b.state.timeless
  draws : a.draws = b.draws
  log : a.log = b.log

/-- Two games differ in their clocks and in the times in their states at most. -/
structure Game.SameButTimes (a b : Game α) : Prop where
  state : a.state.timeless = b.state.timeless
  active : a.active = b.active
  draws : a.draws = b.draws
  scored : a.scored = b.scored
  notes : a.notes.map Note.timeless = b.notes.map Note.timeless

theorem Scene.SameButTimes.pairs : Effect.ListPairs (Scene.SameButTimes (α := α)) where
  sees {s t} h := show s.state.timeless.holdings = t.state.timeless.holdings by rw [h.state]
  held {s t} held h := by
    refine ⟨?_, h.draws, h.log⟩
    show s.state.timeless.holding held = t.state.timeless.holding held
    rw [h.state]
  noted line h := ⟨h.state, h.draws, by rw [h.log]⟩
  timed {s t} timer duration h := by
    refine ⟨?_, h.draws, h.log⟩
    show { s.state with timers := _ }.timeless = { t.state with timers := _ }.timeless
    rw [State.timeless_setTimer, State.timeless_setTimer, h.state]
  draws h := h.draws
  drawn draws h := ⟨h.state, rfl, h.log⟩

theorem Game.SameButTimes.activePuzzle? {setup : Setup α} {a b : Game α} (h : a.SameButTimes b) :
    a.activePuzzle? setup = b.activePuzzle? setup := by
  unfold Game.activePuzzle? currentNode?
  rw [h.active, Couples.sees_currentNode h.state]

variable [Number α] {setup : Setup α}

theorem Play.applyEffects_timeless (effects : List (Effect α)) :
    Agrees Game.SameButTimes (applyEffects setup effects) (applyEffects setup effects) := by
  intro a b h
  obtain ⟨hresult, hafter⟩ := Scene.SameButTimes.pairs.applyAll setup.story effects a.scene b.scene
    ⟨h.state, h.draws, rfl⟩
  rw [applyEffects_run, applyEffects_run]
  generalize (Effect.applyAll setup.story effects).run a.scene = left at *
  generalize (Effect.applyAll setup.story effects).run b.scene = right at *
  obtain ⟨result, x⟩ := left
  obtain ⟨_, y⟩ := right
  subst hresult
  have hleft : (a.leftBy x).SameButTimes (b.leftBy y) := by
    refine ⟨hafter.state, h.active, hafter.draws, h.scored, ?_⟩
    unfold Game.leftBy Game.logged
    rw [List.map_append, List.map_append, h.notes, hafter.log]
  cases result with
  | error fault => exact ⟨rfl, hleft⟩
  | ok report =>
    refine ⟨rfl, hleft.state, hleft.active, hleft.draws, hleft.scored, ?_⟩
    unfold Game.told
    rw [List.map_append, List.map_append, hleft.notes]

/-- Games that differ in times at most are coupled: nothing that play looks at has to do with times. -/
theorem Game.SameButTimes.couples : Couples setup (Game.SameButTimes (α := α)) where
  state h := h.state
  noted notes h := ⟨h.state, h.active, h.draws, h.scored, by rw [List.map_append, List.map_append, h.notes]⟩
  told {a b} h := by
    refine ⟨h.state, h.active, h.draws, h.scored, ?_⟩
    have hsame : (Note.event (.stateChanged a.state)).timeless =
        (Note.event (.stateChanged b.state)).timeless :=
      congrArg (fun s => Note.event (.stateChanged s)) h.state
    unfold Game.told
    rw [List.map_append, List.map_append, h.notes, List.map_singleton, List.map_singleton, hsame]
  draws h := h.draws
  scored h := h.scored
  counted scored h := ⟨h.state, h.active, h.draws, rfl, h.notes⟩
  drawn draws h := ⟨h.state, h.active, rfl, h.scored, h.notes⟩
  moved {a b} n h := by
    refine ⟨?_, rfl, h.draws, h.scored, h.notes⟩
    show { (a.state.visit n.id).timeless with currentNode := n.id } =
      { (b.state.visit n.id).timeless with currentNode := n.id }
    rw [State.timeless_visit, State.timeless_visit, h.state]
  raised q h := ⟨h.state, rfl, h.draws, h.scored, h.notes⟩
  changed {a b f} hf h := by
    refine ⟨?_, h.active, h.draws, h.scored, h.notes⟩
    rw [hf.timeless, hf.timeless, h.state]
  timed {a b} puzzle h := by
    have hsolved : ∀ g : Game α, (g.timed puzzle).state.timeless = g.state.timeless.setProgress puzzle
        { g.state.timeless.progress puzzle with solvedAt := some 0 } := by
      intro g
      rw [State.progress_timeless]
      exact State.timeless_setProgress _ _ _
    refine ⟨?_, h.active, h.draws, h.scored, h.notes⟩
    rw [hsolved, hsolved, h.state]
  applied := Play.applyEffects_timeless

/-! ## Runs -/

namespace Game.SameButTimes

theorem move (setup : Setup α) {a b : Game α} (h : a.SameButTimes b) (m : Move α) :
    (a.move setup m).1.timeless = (b.move setup m).1.timeless ∧
      (a.move setup m).2.SameButTimes (b.move setup m).2 := by
  have hempty : SameButTimes { a with notes := [] } { b with notes := [] } :=
    ⟨h.state, h.active, h.draws, h.scored, rfl⟩
  obtain ⟨hreply, hafter⟩ := couples.move (fun _ _ _ h => h.activePuzzle?) _ _ hempty
  refine ⟨?_, hafter.state, hafter.active, hafter.draws, hafter.scored, rfl⟩
  rw [turn_eq, turn_eq]
  unfold Turn.timeless
  rw [hreply, hafter.notes]

theorem play (setup : Setup α) (moves : List (Move α)) : ∀ {a b : Game α}, a.SameButTimes b →
    (a.play setup moves).1.map Turn.timeless = (b.play setup moves).1.map Turn.timeless ∧
      (a.play setup moves).2.SameButTimes (b.play setup moves).2 := by
  induction moves with
  | nil => exact fun h => ⟨rfl, h⟩
  | cons m rest ih =>
    intro a b h
    obtain ⟨hturn, hafter⟩ := h.move setup m
    obtain ⟨hturns, hend⟩ := ih hafter
    refine ⟨?_, hend⟩
    show (a.move setup m).1.timeless :: ((a.move setup m).2.play setup rest).1.map Turn.timeless =
      (b.move setup m).1.timeless :: ((b.move setup m).2.play setup rest).1.map Turn.timeless
    rw [hturn, hturns]

end Game.SameButTimes

/-- Two games that differ in their clocks only are answered alike by every run of moves; they tell of the
same, and come to the same state, but for the times at which timers run out and puzzles were solved. -/
theorem play_timeless (setup : Setup α) (g : Game α) (clock : Feed Int) (moves : List (Move α)) :
    let other := { g with clock }
    (g.play setup moves).1.map Turn.timeless = (other.play setup moves).1.map Turn.timeless ∧
      (g.play setup moves).2.state.timeless = (other.play setup moves).2.state.timeless := by
  intro other
  have hstart : g.SameButTimes other := ⟨rfl, rfl, rfl, rfl, rfl⟩
  obtain ⟨hturns, hend⟩ := hstart.play setup moves
  exact ⟨hturns, hend.state⟩

end StoryRules
