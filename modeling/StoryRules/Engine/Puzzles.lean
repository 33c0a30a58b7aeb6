import StoryRules.Datum.Plain
import StoryRules.Engine.Entry

/-!
# Puzzles in play

Answers to the puzzle of the current node are scored and recorded, and its outcome follows once it is
solved or the attempts are used up.  Hints are shown one after the other, under the rules and at the
cost that the puzzle sets.
-/

namespace StoryRules

variable {α : Type} [Number α]

/-- The outcome of one answer. -/
structure Attempt (α : Type) where
  success : Bool
  score : Option (Score α) := none
  attempts : Int := 0
  solved : Bool := false
  node : Option String := none
  report : Option EffectReport := none
  error : Option String := none

/-- An answer that was not scored. -/
def Attempt.failure (error : String) (attempts : Int) : Attempt α :=
  { success := false, attempts, error := some error }

/-- What came of an answer: it was turned away, or it was scored and brought about an outcome, that of
success or that of failure, or none. -/
inductive Judgement (α : Type) where
  | dismissed (a : Attempt α)
  | scored (p : Puzzle α) (score : Score α) (resolved : Option Bool)

/-- Whether a puzzle's attempts are used up. -/
def Puzzle.exhausted (p : Puzzle α) (attempts : Int) : Bool :=
  match p.attemptsMax with
  | some most => most ≤ attempts
  | none => false

/-- The time for an answer: after some attempts there may be more. -/
def Puzzle.timeFor (p : Puzzle α) (attempts : Int) : Option Int :=
  p.timeLimit.map fun limit =>
    match p.dynamic with
    | some ⟨some above, _, some extra⟩ => if attempts > above then limit + extra else limit
    | _ => limit

/-- Whether an answer took longer than it may. -/
def Puzzle.isLate (p : Puzzle α) (attempts : Int) (timeMs : Option Int) : Bool :=
  match timeMs, p.timeFor attempts with
  | some time, some limit => time > limit
  | _, _ => false

/-- The score of an answer that came too late. -/
def Score.late : Score α := .malformed "Time limit exceeded"

namespace Play

/-- The record of a puzzle, which is made if there is none. -/
def openProgress (puzzle : String) : Play α (Progress α) := do
  change fun s => s.openProgress puzzle
  return (← state).progress puzzle

def setProgress (puzzle : String) (f : Progress α → Progress α) : Play α Unit :=
  change fun s => s.setProgress puzzle (f (s.progress puzzle))

/-- Records a scored answer; a text among bytes that are none is a fault after the count. -/
def record (p : Puzzle α) (answer : Datum α) (timeMs : Option Int) (score : Score α) :
    Play α Unit := do
  setProgress p.id fun r => { r with attempts := r.attempts + 1 }
  let plain ← liftM answer.plain
  setProgress p.id fun r =>
    { r with lastAnswer := plain, score := some score.score, timeMs := timeMs.or r.timeMs }

/-- Which outcome a scored answer brings about, that of success or that of failure; a right answer
solves the puzzle. -/
def resolve (p : Puzzle α) (score : Score α) : Play α (Option Bool) := do
  if score.correct then
    setProgress p.id fun r => { r with solved := true }
    let time ← now
    setProgress p.id fun r => { r with solvedAt := some time }
    return some true
  else
    let r := (← state).progress p.id
    return if p.exhausted r.attempts then some false else none

/-- Scores an answer to a puzzle and records it, given what was recorded before. -/
def assess (setup : Setup α) (p : Puzzle α) (r : Progress α) (answer : Datum α)
    (timeMs : Option Int) : Play α (Judgement α) := do
  if r.solved then
    return .dismissed
      { success := true, attempts := r.attempts, solved := true,
        node := some (← state).currentNode }
  else if p.exhausted r.attempts then
    return .dismissed (.failure "No attempts remaining" r.attempts)
  else
    match ← score setup p answer with
    | .error message =>
      log (.scoringFailed p.id)
      return .dismissed (.failure ("Scoring failed: " ++ message) r.attempts)
    | .ok score =>
      let score := if p.isLate r.attempts timeMs then .late else score
      record p answer timeMs score
      let resolved ← resolve p score
      return .scored p score resolved

/-- Judges an answer to the puzzle of the current node. -/
def judge (setup : Setup α) (answer : Datum α) (timeMs : Option Int) :
    Play α (Judgement α) := do
  match (← get).activePuzzle? setup with
  | none =>
    log .noPuzzle
    return .dismissed (.failure "No active puzzle" 0)
  | some p =>
    let r ← openProgress p.id
    assess setup p r answer timeMs

/-- Applies the effects of an outcome, if there is one. -/
def applyOutcome (setup : Setup α) : Option (Outcome α) → Play α (Option EffectReport)
  | none => return none
  | some o => applyAny setup o.effects

/-- Enters a node, if there is one to enter. -/
def enterAny (setup : Setup α) : Option String → Play α Unit
  | none => return
  | some target => do let _ ← enterNode setup target

/-- Follows what a scored answer leads to. -/
def settle (setup : Setup α) (p : Puzzle α) (score : Score α) (resolved : Option Bool) :
    Play α (Attempt α) := do
  let o := resolved.bind p.outcome?
  let report ← applyOutcome setup o
  emit (.puzzleCompleted p score)
  emitState
  enterAny setup ((o.bind (·.next)).or (report.bind (·.goto)))
  let s ← state
  let r := s.progress p.id
  return { success := score.correct, score := some score, attempts := r.attempts,
           solved := r.solved, node := some s.currentNode, report }

/-- Answers the puzzle of the current node. -/
def solve (setup : Setup α) (answer : Datum α) (timeMs : Option Int) : Play α (Attempt α) := do
  match ← judge setup answer timeMs with
  | .dismissed a => return a
  | .scored p score resolved => settle setup p score resolved

end Play

/-! ## Hints -/

/-- The hint at a position; positions below zero count from the end. -/
def hintAt? (hints : List String) (position : Int) : Option String :=
  let i := if position < 0 then hints.length + position else position
  if i < 0 then none else hints[i.toNat]?

/-- Whether enough attempts were made for a hint. -/
def Puzzle.givesHints (p : Puzzle α) (attempts : Int) : Bool :=
  match p.dynamic.bind (·.attemptsAbove) with
  | some above => attempts > above
  | none => true

namespace Play

/-- Pays for a hint of a puzzle, if it can be paid. -/
def payHint (setup : Setup α) (p : Puzzle α) : Play α Bool := do
  match p.dynamic.bind (·.hintCost) with
  | none => return true
  | some cost =>
    if Number.less ((← state).currency cost.currency) cost.value then
      log (.hintUnaffordable p.id)
      return false
    else
      let _ ← applyEffects setup [.addCurrency cost.currency (Number.neg cost.value)]
      return true

/-- Shows a hint and counts it. -/
def showHint (p : Puzzle α) (used : Int) : Play α String := do
  match hintAt? p.hints used with
  | none => throw .noSuchHint
  | some hint =>
    setProgress p.id fun r => { r with hintsUsed := r.hintsUsed + 1 }
    emitState
    return hint

/-- The next hint for the puzzle of the current node, if there is one to give. -/
def hint (setup : Setup α) : Play α (Option String) := do
  match (← get).activePuzzle? setup with
  | none => return none
  | some p =>
    if p.hints.isEmpty then return none
    else
      let r ← openProgress p.id
      if r.hintsUsed ≥ p.hints.length || !p.givesHints r.attempts then return none
      else if ← payHint setup p then some <$> showHint p r.hintsUsed
      else return none

end Play

end StoryRules
