import StoryRules.Engine.Puzzles
import StoryRules.Proofs.State
import StoryRules.Proofs.Step

/-!
# What judging does

Judging an answer is turned into one equation for each of its ways.  An answer to a puzzle that is solved,
or whose attempts are used up, is turned away before it is scored.  An answer that is scored is counted and
recorded, and brings about the outcome of success if it is right, that of failure if it was the last.

    g.activePuzzle? setup = some q → q.IsOpen (g.state.progress q.id) →
      g.scorer setup q answer = (.ok score, lines) →
      (judge setup answer timeMs).run g = g.judged q answer timeMs score lines      (judge_scored)
-/

namespace StoryRules

variable {α : Type}

/-- Whether answers to a puzzle are still scored. -/
def Puzzle.IsOpen (p : Puzzle α) (r : Progress α) : Prop :=
  r.solved = false ∧ p.exhausted r.attempts = false

namespace Progress

/-- One more attempt. -/
def counted (r : Progress α) : Progress α := { r with attempts := r.attempts + 1 }

/-- The answer of an attempt with its score. -/
def answered (r : Progress α) (answer : Datum α) (timeMs : Option Int) (score : Score α) :
    Progress α :=
  { r with lastAnswer := answer, score := some score.score, timeMs := timeMs.or r.timeMs }

/-- One more attempt, with its answer and its score. -/
def recorded (r : Progress α) (answer : Datum α) (timeMs : Option Int) (score : Score α) :
    Progress α := r.counted.answered answer timeMs score

def solvedBy (r : Progress α) (time : Int) : Progress α :=
  { r with solved := true, solvedAt := some time }

end Progress

variable [Number α]

/-- The score that counts: that of an answer that came too late is nothing. -/
def Puzzle.scoreInTime (p : Puzzle α) (attempts : Int) (timeMs : Option Int) (score : Score α) :
    Score α :=
  if p.isLate attempts timeMs then .late else score

/-- What an answer to a puzzle that is not open is told. -/
def Game.closed (g : Game α) (q : Puzzle α) : Attempt α :=
  let r := g.state.progress q.id
  if r.solved then
    { success := true, attempts := r.attempts, solved := true, node := some g.state.currentNode }
  else .failure "No attempts remaining" r.attempts

/-- What comes of an answer that is scored. -/
def Game.judged (g : Game α) (q : Puzzle α) (answer : Datum α) (timeMs : Option Int)
    (score : Score α) (lines : List LogLine) : Except Fault (Judgement α) × Game α :=
  let r := g.state.progress q.id
  let g := { g with
    scored := g.scored + 1
    notes := g.notes ++ (lines.map LogLine.ofScorer).map Note.log }
  let record := fun r => { g with state := g.state.setProgress q.id r }
  match answer.plain with
  | .error fault => (.error fault, record r.counted)
  | .ok plain =>
    let score := q.scoreInTime r.attempts timeMs score
    let r := r.recorded plain timeMs score
    if score.correct then
      (.ok (.scored q score (some true)),
        { record (r.solvedBy g.clock.next.1) with clock := g.clock.next.2 })
    else
      (.ok (.scored q score (if q.exhausted r.attempts then some false else none)), record r)

/-- Judging changes the record of no other puzzle. -/
theorem Game.judged_frame (g : Game α) (q : Puzzle α) (answer : Datum α) (timeMs : Option Int)
    (score : Score α) (lines : List LogLine) {id : String} (h : q.id ≠ id) :
    (g.judged q answer timeMs score lines).2.active = g.active ∧
      (g.judged q answer timeMs score lines).2.state.progress id = g.state.progress id := by
  unfold judged
  dsimp only
  split
  · exact ⟨rfl, State.progress_setProgress_of_ne _ _ h⟩
  · split <;> exact ⟨rfl, State.progress_setProgress_of_ne _ _ h⟩

theorem Game.judged_puzzle (g : Game α) (q : Puzzle α) (answer : Datum α) (timeMs : Option Int)
    (score : Score α) (lines : List LogLine) {p : Puzzle α} {final : Score α}
    {resolved : Option Bool}
    (h : (g.judged q answer timeMs score lines).1 = .ok (.scored p final resolved)) : p = q := by
  unfold judged at h
  dsimp only at h
  split at h
  · cases h
  · split at h <;> cases h <;> rfl

namespace Play

variable {setup : Setup α} {g : Game α} {q : Puzzle α} {answer : Datum α} {timeMs : Option Int}

omit [Number α] in
theorem openProgress_run : (openProgress q.id).run g =
    (.ok (g.state.progress q.id), { g with state := g.state.openProgress q.id }) := by
  have h : (openProgress q.id).run g = (.ok ((g.state.openProgress q.id).progress q.id),
      { g with state := g.state.openProgress q.id }) := rfl
  rw [h, State.progress_openProgress]

omit [Number α] in
theorem record_run (score : Score α) : (record q answer timeMs score).run g =
    match answer.plain with
    | .error fault =>
      (.error fault, { g with state := g.state.setProgress q.id (g.state.progress q.id).counted })
    | .ok plain =>
      let r := (g.state.progress q.id).recorded plain timeMs score
      (.ok (), { g with state := g.state.setProgress q.id r }) := by
  unfold record
  cases hplain : answer.plain with
  | error fault => rfl
  | ok plain =>
    rw [Step.run_bind]
    have htwice : ∀ s : State α, (s.setProgress q.id (s.progress q.id).counted).setProgress q.id
        (((s.setProgress q.id (s.progress q.id).counted).progress q.id).answered plain timeMs score) =
          s.setProgress q.id ((s.progress q.id).recorded plain timeMs score) := by
      intro s
      rw [State.progress_setProgress_self, State.setProgress_setProgress]
      rfl
    simp only [← htwice]
    rfl

omit [Number α] in
theorem resolve_run (score : Score α) : (resolve q score).run g =
    let r := g.state.progress q.id
    if score.correct then
      (.ok (some true),
        { g with
          state := g.state.setProgress q.id (r.solvedBy g.clock.next.1)
          clock := g.clock.next.2 })
    else (.ok (if q.exhausted r.attempts then some false else none), g) := by
  unfold resolve
  cases hcorrect : score.correct with
  | false => rfl
  | true =>
    have htwice : ∀ time, (g.state.setProgress q.id
        { g.state.progress q.id with solved := true }).setProgress q.id
          { (g.state.setProgress q.id { g.state.progress q.id with solved := true }).progress q.id with
            solvedAt := some time } =
        g.state.setProgress q.id ((g.state.progress q.id).solvedBy time) := by
      intro time
      rw [State.progress_setProgress_self, State.setProgress_setProgress]
      rfl
    simp only [← htwice]
    rfl

omit [Number α] in
theorem score_run {result : Except String (Score α)} {lines : List LogLine}
    (h : g.scorer setup q answer = (result, lines)) :
    (score setup q answer).run { g with state := g.state.openProgress q.id } =
      (.ok result,
      { g with
        state := g.state.openProgress q.id
        scored := g.scored + 1
        notes := g.notes ++ (lines.map LogLine.ofScorer).map Note.log }) := by
  have hscorer : Game.scorer { g with state := g.state.openProgress q.id } setup q answer =
      (result, lines) := h
  unfold score
  rw [Step.run_get_bind, hscorer]
  rfl

theorem judge_run (h : g.activePuzzle? setup = some q) :
    (judge setup answer timeMs).run g =
      (assess setup q (g.state.progress q.id) answer timeMs).run
        { g with state := g.state.openProgress q.id } := by
  unfold judge
  rw [Step.run_bind, Step.run_get]
  dsimp only
  rw [h]
  dsimp only
  rw [Step.run_bind, openProgress_run]

theorem judge_none (h : g.activePuzzle? setup = none) :
    (judge setup answer timeMs).run g = (.ok (.dismissed (.failure "No active puzzle" 0)),
      { g with notes := g.notes ++ [.log .noPuzzle] }) := by
  unfold judge
  rw [Step.run_bind, Step.run_get]
  dsimp only
  rw [h]
  rfl

/-- An answer to a puzzle that is not open is turned away, and the scorer is not asked. -/
theorem judge_closed (h : g.activePuzzle? setup = some q)
    (hclosed : ¬ q.IsOpen (g.state.progress q.id)) :
    (judge setup answer timeMs).run g =
      (.ok (.dismissed (g.closed q)), { g with state := g.state.openProgress q.id }) := by
  rw [judge_run h]
  unfold assess Game.closed
  dsimp only
  cases hsolved : (g.state.progress q.id).solved with
  | true =>
    rw [← State.currentNode_openProgress g.state q.id]
    rfl
  | false =>
    have hused : q.exhausted (g.state.progress q.id).attempts = true := by
      cases hused : q.exhausted (g.state.progress q.id).attempts with
      | true => rfl
      | false => exact absurd ⟨hsolved, hused⟩ hclosed
    rw [hused]
    rfl

theorem judge_failed (h : g.activePuzzle? setup = some q)
    (hopen : q.IsOpen (g.state.progress q.id)) {message : String} {lines : List LogLine}
    (hscore : g.scorer setup q answer = (.error message, lines)) :
    (judge setup answer timeMs).run g =
      (.ok (.dismissed (.failure ("Scoring failed: " ++ message) (g.state.progress q.id).attempts)),
      { g with
        state := g.state.openProgress q.id
        scored := g.scored + 1
        notes := g.notes ++ (lines.map LogLine.ofScorer).map Note.log ++
          [.log (.scoringFailed q.id)] }) := by
  rw [judge_run h]
  unfold assess
  rw [hopen.1, hopen.2]
  dsimp only
  rw [if_neg (by decide), if_neg (by decide), Step.run_bind, score_run hscore]
  rfl

theorem judge_scored (h : g.activePuzzle? setup = some q)
    (hopen : q.IsOpen (g.state.progress q.id)) {score : Score α} {lines : List LogLine}
    (hscore : g.scorer setup q answer = (.ok score, lines)) :
    (judge setup answer timeMs).run g = g.judged q answer timeMs score lines := by
  rw [judge_run h]
  unfold assess
  rw [hopen.1, hopen.2]
  dsimp only
  rw [if_neg (by decide), if_neg (by decide), Step.run_bind, score_run hscore]
  dsimp only
  rw [Step.run_bind, record_run]
  unfold Game.judged Puzzle.scoreInTime
  dsimp only
  rw [State.progress_openProgress]
  cases hplain : answer.plain with
  | error fault =>
    dsimp only
    rw [State.setProgress_openProgress]
  | ok plain =>
    dsimp only
    rw [Step.run_bind, resolve_run, State.setProgress_openProgress]
    dsimp only
    rw [State.progress_setProgress_self, State.setProgress_setProgress]
    generalize (if q.isLate (g.state.progress q.id).attempts timeMs = true then Score.late else score) =
      final
    cases final.correct <;> rfl

/-- What is scored is the puzzle in play. -/
theorem judge_puzzle {p : Puzzle α} {score : Score α} {resolved : Option Bool}
    (h : ((judge setup answer timeMs).run g).1 = .ok (.scored p score resolved)) :
    g.activePuzzle? setup = some p := by
  cases hq : g.activePuzzle? setup with
  | none =>
    rw [judge_none hq] at h
    cases h
  | some q =>
    by_cases hopen : q.IsOpen (g.state.progress q.id)
    · rcases hscore : g.scorer setup q answer with ⟨_ | score, lines⟩
      · rw [judge_failed hq hopen hscore] at h
        cases h
      · rw [judge_scored hq hopen hscore] at h
        rw [g.judged_puzzle q answer timeMs score lines h]
    · rw [judge_closed hq hopen] at h
      cases h

/-- An answer that is dismissed is answered at once. -/
theorem solve_dismissed {a : Attempt α} {judged : Game α}
    (h : (judge setup answer timeMs).run g = (.ok (.dismissed a), judged)) :
    (solve setup answer timeMs).run g = (.ok a, judged) := by
  unfold solve
  rw [Step.run_bind, h]
  rfl

/-- An answer that is scored is settled where it was judged. -/
theorem solve_scored {p : Puzzle α} {score : Score α} {resolved : Option Bool} {judged : Game α}
    (h : (judge setup answer timeMs).run g = (.ok (.scored p score resolved), judged)) :
    (solve setup answer timeMs).run g = (settle setup p score resolved).run judged := by
  unfold solve
  rw [Step.run_bind, h]

end Play

end StoryRules
