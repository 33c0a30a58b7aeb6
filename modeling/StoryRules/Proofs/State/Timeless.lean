import StoryRules.Proofs.State
import StoryRules.Requirement.Evaluate

/-!
# States without times

What a state says besides when timers run out and when puzzles were solved.  Records of puzzles are written,
and conditions are tested, without a look at these times.

    c.test s.timeless = c.test s      (Condition.test_timeless)
-/

namespace StoryRules

variable {α : Type}

/-- A record without the time at which the puzzle was solved; that there is one is kept. -/
def Progress.timeless (r : Progress α) : Progress α :=
  { r with solvedAt := r.solvedAt.map fun _ => 0 }

namespace State

/-- A state without the times at which timers run out and puzzles were solved. -/
def timeless (s : State α) : State α :=
  { s with
    puzzles := s.puzzles.mapValues Progress.timeless
    timers := s.timers.mapValues fun _ => 0 }

variable (s : State α)

theorem progress_timeless (id : String) : s.timeless.progress id = (s.progress id).timeless := by
  unfold progress timeless
  rw [Table.get?_mapValues]
  cases s.puzzles.get? id <;> rfl

theorem isSolved_timeless (id : String) : s.timeless.isSolved id = s.isSolved id := by
  unfold isSolved
  rw [progress_timeless]
  rfl

theorem timeless_setProgress (id : String) (r : Progress α) :
    (s.setProgress id r).timeless = s.timeless.setProgress id r.timeless := by
  unfold setProgress timeless
  rw [Table.mapValues_put]

theorem timeless_openProgress (id : String) :
    (s.openProgress id).timeless = s.timeless.openProgress id := by
  have hhas : s.timeless.puzzles.has id = s.puzzles.has id := Table.has_mapValues _ _ _
  unfold openProgress
  rw [hhas]
  split
  · rfl
  · exact s.timeless_setProgress id {}

theorem timeless_visit (node : String) : (s.visit node).timeless = s.timeless.visit node := by
  have hvisited : s.timeless.hasVisited node = s.hasVisited node := rfl
  unfold visit
  rw [hvisited]
  split <;> rfl

/-- A timer that is set is there, whenever it runs out. -/
theorem timeless_setTimer (timer : String) (time : Int) :
    { s with timers := s.timers.put timer time }.timeless =
      { s.timeless with timers := s.timeless.timers.put timer 0 } := by
  unfold timeless
  rw [Table.mapValues_put]

end State

/-! ## Conditions -/

variable [Number α] (s : State α)

theorem Condition.test_timeless (c : Condition α) : c.test s.timeless = c.test s := by
  have hholds : c.holds s.timeless = c.holds s := by
    unfold holds
    split
    case h_8 id => exact s.isSolved_timeless id
    all_goals rfl
  unfold test
  rw [hholds]

end StoryRules
