import StoryRules.Proofs.Engine.Alike
import StoryRules.Proofs.Engine.Savable
import StoryRules.Proofs.Validation.Sound

/-!
# Games that are saved and loaded

A game that is saved and loaded has the same state, draws and clock again, but the variant that was drawn
for the puzzle in play is lost: what is in play then is the node's own puzzle.  It goes on like the game
that was not saved for as long as answers and hints meet the same puzzles in both, and nothing can ever
tell the two apart just if the puzzle in play was the node's own before.

    (∀ rest, loaded goes on like g for rest) ↔
      g.activePuzzle? setup = (g.currentNode? setup).bind (·.puzzle)      (reload_transparent)
-/

namespace StoryRules

variable {α : Type} [Number α]

/-- Saves the state and loads what was saved. -/
def Play.reload : Play α (Except RestoreError Unit) := do
  let snapshot ← liftM (← state).snapshot
  load (State.restore snapshot)

/-- The game that saving and loading leaves. -/
def Game.reloaded (g : Game α) : Game α := (g.run Play.reload).2.1

variable {setup : Setup α}

/-! ## Saving and loading -/

/-- Saving and loading forgets the puzzle in play, and nothing else. -/
theorem Game.reload_run [FaithfulNumber α] {g : Game α} (hg : g.state.Savable) :
    g.run Play.reload =
      (.ok (.ok ()), { g with active := none, notes := [] }, [.event (.stateChanged g.state)]) := by
  obtain ⟨d, hsnapshot, hrestore⟩ := State.restore_snapshot hg
  have hstep : Play.reload.run { g with notes := [] } = (.ok (.ok ()),
      { g with active := none, notes := [.event (.stateChanged g.state)] }) := by
    have hstate : (Play.state (α := α)).run { g with notes := [] } =
        (.ok g.state, { g with notes := [] }) := rfl
    unfold Play.reload
    rw [Step.run_bind, hstate]
    dsimp only
    rw [hsnapshot, Step.run_bind, Step.run_lift]
    dsimp only
    rw [hrestore]
    rfl
  unfold run
  rw [hstep]

omit [Number α] in
theorem Game.activePuzzle?_of_none {g : Game α} (h : g.active = none) :
    g.activePuzzle? setup = (g.currentNode? setup).bind (·.puzzle) := by
  unfold activePuzzle?
  rw [h]
  cases (g.currentNode? setup).bind (·.puzzle) <;> rfl

theorem Game.reloaded_eq [FaithfulNumber α] {g : Game α} (hg : g.state.Savable) :
    g.reloaded = { g with active := none, notes := [] } := by
  unfold reloaded
  rw [Game.reload_run hg]

/-- What is in play then is the node's own puzzle. -/
theorem Game.reloaded_activePuzzle? [FaithfulNumber α] {g : Game α} (hg : g.state.Savable) :
    g.reloaded.activePuzzle? setup = (g.currentNode? setup).bind (·.puzzle) := by
  rw [reloaded_eq hg]
  exact activePuzzle?_of_none (g := { g with active := none, notes := [] }) rfl

theorem Game.alike_reloaded [FaithfulNumber α] {g : Game α} (hg : g.state.Savable)
    (hnotes : g.notes = []) :
    g.Alike setup (g.activePuzzle? setup = (g.currentNode? setup).bind (·.puzzle)) g.reloaded := by
  have heq := reloaded_eq hg
  refine ⟨by rw [heq], by rw [heq], by rw [heq], by rw [heq], by rw [heq, hnotes], fun hown => ?_⟩
  rw [hown, reloaded_activePuzzle? hg]

theorem Game.play_notes (moves : List (Move α)) : ∀ {g : Game α}, g.notes = [] →
    (g.play setup moves).2.notes = [] := by
  induction moves with
  | nil => exact id
  | cons m rest ih => exact fun _ => ih rfl

/-! ## Going on -/

/-- From two games some moves bring the same turns, and leave the same state and puzzle in play. -/
def Game.GoesOnLike (setup : Setup α) (a b : Game α) (moves : List (Move α)) : Prop :=
  (a.play setup moves).1 = (b.play setup moves).1 ∧
    (a.play setup moves).2.state = (b.play setup moves).2.state ∧
    (a.play setup moves).2.activePuzzle? setup = (b.play setup moves).2.activePuzzle? setup

/-- Saving and loading succeeds at any time and loses nothing but the puzzle in play.  Play goes on as it
would have for as long as answers and hints meet the same puzzles, and whatever the player does just if
the puzzle in play was the node's own. -/
theorem reload_transparent [FaithfulNumber α] [MeasuredNumber α] (hscorer : ∀ n, (setup.scorer.value n).Measures)
    (state : Option (State α)) (hstate : ∀ s, state = some s → s.Savable) (draws : Feed α)
    (clock : Feed Int) (moves : List (Move α)) (hmoves : ∀ m ∈ moves, m.IsPlain) :
    let g := ((setup.newGame state draws clock).play setup moves).2
    (g.run Play.reload).1 = .ok (.ok ()) ∧ g.reloaded = { g with active := none } ∧
    (∀ rest, g.SamePuzzles setup g.reloaded rest →
      (g.play setup rest).1 = (g.reloaded.play setup rest).1 ∧
      (g.play setup rest).2.state = (g.reloaded.play setup rest).2.state) ∧
    ((∀ rest, g.GoesOnLike setup g.reloaded rest) ↔
      g.activePuzzle? setup = (g.currentNode? setup).bind (·.puzzle)) := by
  intro g
  have hfresh : (setup.newGame state draws clock).state.Savable := by
    cases state with
    | none => exact initial_savable setup
    | some s => exact hstate s rfl
  have hg : g.state.Savable := play_savable hscorer moves hmoves hfresh
  have hnotes : g.notes = [] := Game.play_notes moves rfl
  have halike : g.Alike setup _ g.reloaded := Game.alike_reloaded hg hnotes
  refine ⟨by rw [Game.reload_run hg], ?_, fun rest hsame => ?_, fun hlike => ?_, fun hown rest => ?_⟩
  · rw [Game.reloaded_eq hg, hnotes]
  · obtain ⟨hturns, hend⟩ := halike.play rest hsame
    exact ⟨hturns, hend.state⟩
  · rw [← Game.reloaded_activePuzzle? hg]
    exact (hlike []).2.2
  · have hwhole : g.Alike setup True g.reloaded :=
      ⟨halike.state, halike.draws, halike.clock, halike.scored, halike.notes, fun _ => halike.puzzle hown⟩
    obtain ⟨hturns, hend⟩ := hwhole.play rest (hwhole.samePuzzles rest)
    exact ⟨hturns, hend.state, hend.puzzle trivial⟩

/-- Once the riddle is solved no puzzle is in play, and nothing is lost. -/
theorem riddle_reload_transparent :
    let g := ((Setup.riddle.newGame none (.always (.int 0)) (.always 0)).play Setup.riddle
      [.start, .solve (.list [.whole 1]) none]).2
    ∀ rest, g.GoesOnLike Setup.riddle g.reloaded rest := by
  intro g
  have hscorer : ∀ n, (Setup.riddle.scorer.value n).Measures :=
    fun _ => Scorer.standard_measures Pattern.language
  have hplain : ∀ m ∈ [Move.start, .solve (.list [.whole 1]) none], Move.IsPlain (α := Amount) m := by
    intro m hm
    rcases List.mem_cons.1 hm with rfl | hm
    · trivial
    · cases List.mem_singleton.1 hm
      rfl
  have hown : g.activePuzzle? Setup.riddle = (g.currentNode? Setup.riddle).bind (·.puzzle) := by
    have hend : ((g.currentNode? Setup.riddle).bind (·.puzzle)).isNone = true := by decide +kernel
    unfold Game.activePuzzle?
    rw [Option.isNone_iff_eq_none.1 hend]
  obtain ⟨-, -, -, hlike⟩ := reload_transparent hscorer none (by rintro s ⟨⟩) (.always (.int 0))
    (.always 0) _ hplain
  exact hlike.2 hown

/-- The variant drawn for the riddle is lost: the answer that would have solved it does not any more. -/
theorem riddle_reload_forgets :
    let g := ((Setup.riddle.newGame none (.always (.int 0)) (.always 0)).play Setup.riddle [.start]).2
    let rest := [.solve (.list [.whole 1]) none]
    ((g.play Setup.riddle rest).2.state.progress "riddle").solved = true ∧
      ((g.reloaded.play Setup.riddle rest).2.state.progress "riddle").solved = false := by
  decide +kernel

end StoryRules
