import StoryRules.Proofs.Engine.Invariant
import StoryRules.Proofs.Engine.Judge
import StoryRules.Proofs.Puzzle.Score
import StoryRules.Proofs.State.Snapshot

/-!
# Play leaves states that can be saved

From a state that a snapshot keeps as it is, play leads to such states only, as long as the numbers in the
answers are finite and the scores are measured.

    g.state.Savable → (∀ m ∈ moves, m.IsPlain) → (g.play setup moves).2.state.Savable      (play_savable)
-/

namespace StoryRules

variable {α : Type} [Number α]

/-- The numbers in an answer are finite, as they are in JSON texts. -/
def Move.IsPlain : Move α → Prop
  | .solve answer _ => answer.finitePart = answer
  | _ => True

variable {setup : Setup α}

theorem savable_upheld : (Invariant.ofState (State.Savable (α := α))).Upheld setup := by
  refine Invariant.ofState_upheld (fun s n _ hs => ?_) fun s e s' hs h => ?_
  · refine ⟨s.nodup_visited_visit hs.visited, ?_⟩
    show ∀ entry ∈ (s.visit n.id).puzzles, entry.2.Savable
    rw [State.puzzles_visit]
    exact hs.puzzles
  · obtain ⟨-, hvisited, hpuzzles⟩ := h.frame
    exact ⟨hvisited ▸ hs.visited, hpuzzles ▸ hs.puzzles⟩

theorem savable_hinted : (Invariant.ofState (State.Savable (α := α))).Hinted where
  opened _ puzzle hs := hs.openProgress puzzle
  shown _ puzzle hs := hs.setProgress puzzle ⟨(hs.progress puzzle).answer, (hs.progress puzzle).score⟩

/-! ## Judging -/

section

variable [MeasuredNumber α]

theorem Puzzle.scoreInTime_isMeasured (p : Puzzle α) (attempts : Int) (timeMs : Option Int)
    {score : Score α} (h : score.IsMeasured) : (p.scoreInTime attempts timeMs score).IsMeasured := by
  unfold scoreInTime
  split
  · exact Score.late_isMeasured
  · exact h

omit [MeasuredNumber α] in
theorem Progress.Savable.recorded {r : Progress α} {answer : Datum α} (hanswer : answer.Lasts)
    (timeMs : Option Int) {score : Score α} (h : score.IsMeasured) :
    (r.recorded answer timeMs score).Savable := by
  refine ⟨hanswer, ?_⟩
  rintro x ⟨⟩
  exact h

theorem Game.judged_savable {g : Game α} (hg : g.state.Savable) (q : Puzzle α) {answer : Datum α}
    (hanswer : answer.finitePart = answer) (timeMs : Option Int) {score : Score α}
    (hscore : score.IsMeasured) (lines : List LogLine) :
    (g.judged q answer timeMs score lines).2.state.Savable := by
  have hrecord := hg.progress q.id
  unfold judged
  dsimp only
  split
  · exact hg.setProgress q.id ⟨hrecord.answer, hrecord.score⟩
  · next plain hplain =>
    have hnew := Progress.Savable.recorded (r := g.state.progress q.id)
      (Datum.lasts_of_plain hplain hanswer) timeMs
      (q.scoreInTime_isMeasured (g.state.progress q.id).attempts timeMs hscore)
    split
    · exact hg.setProgress q.id ⟨hnew.answer, hnew.score⟩
    · exact hg.setProgress q.id hnew

theorem judge_savable (hscorer : ∀ n, (setup.scorer.value n).Measures) {answer : Datum α}
    (hanswer : answer.finitePart = answer) (timeMs : Option Int) {g : Game α}
    (hg : g.state.Savable) : ((Play.judge setup answer timeMs).run g).2.state.Savable := by
  cases hq : g.activePuzzle? setup with
  | none =>
    rw [Play.judge_none hq]
    exact hg
  | some q =>
    by_cases hopen : q.IsOpen (g.state.progress q.id)
    · rcases hscore : g.scorer setup q answer with ⟨_ | score, lines⟩
      · rw [Play.judge_failed hq hopen hscore]
        exact hg.openProgress q.id
      · rw [Play.judge_scored hq hopen hscore]
        have hmeasured : score.IsMeasured := hscorer g.scored q answer score (congrArg Prod.fst hscore)
        exact Game.judged_savable hg q hanswer timeMs hmeasured lines
    · rw [Play.judge_closed hq hopen]
      exact hg.openProgress q.id

/-! ## Runs -/

theorem solve_savable (hscorer : ∀ n, (setup.scorer.value n).Measures) {answer : Datum α}
    (hanswer : answer.finitePart = answer) (timeMs : Option Int) :
    Keeps (Invariant.ofState State.Savable).Holds (Play.solve setup answer timeMs) fun _ => True := by
  have hjudge : Keeps (Invariant.ofState State.Savable).Holds (Play.judge setup answer timeMs)
      fun _ => True := by
    intro g hg
    have hafter := judge_savable hscorer hanswer timeMs hg.state
    exact ⟨⟨⟨hafter, fun _ _ => trivial⟩, fun _ _ => trivial⟩, fun _ _ => trivial⟩
  unfold Play.solve
  refine hjudge.bind fun j _ => ?_
  cases j with
  | dismissed a => exact Keeps.pure trivial
  | scored p score resolved => exact savable_upheld.settle trivial score resolved

theorem move_savable (hscorer : ∀ n, (setup.scorer.value n).Measures) {m : Move α} (hm : m.IsPlain) {g : Game α}
    (hg : g.state.Savable) : (g.move setup m).2.state.Savable := by
  have hkeeps : Keeps (Invariant.ofState State.Savable).Holds (m.step setup) fun _ => True := by
    cases m with
    | start => exact savable_upheld.start.map fun _ _ => trivial
    | look => exact savable_upheld.choices.map fun _ _ => trivial
    | choose index => exact (savable_upheld.choose index).map fun _ _ => trivial
    | solve answer timeMs => exact (solve_savable hscorer hm timeMs).map fun _ _ => trivial
    | hint => exact (savable_upheld.hint savable_hinted).map fun _ _ => trivial
  have hholds : (Invariant.ofState State.Savable).Holds { g with notes := [] } :=
    ⟨⟨hg, fun _ _ => trivial⟩, fun _ _ => trivial⟩
  exact (hkeeps _ hholds).1.state

theorem play_savable (hscorer : ∀ n, (setup.scorer.value n).Measures) (moves : List (Move α))
    (hmoves : ∀ m ∈ moves, m.IsPlain) : ∀ {g : Game α}, g.state.Savable →
      (g.play setup moves).2.state.Savable := by
  induction moves with
  | nil => exact fun hg => hg
  | cons m rest ih =>
    intro g hg
    have hafter := move_savable hscorer (hmoves m List.mem_cons_self) hg
    exact ih (fun m hm => hmoves m (List.mem_cons_of_mem _ hm)) hafter

end

/-- A game starts in a state that can be saved. -/
theorem initial_savable (setup : Setup α) : setup.initialState.Savable :=
  ⟨List.nodup_nil, by rintro entry ⟨⟩⟩

end StoryRules
