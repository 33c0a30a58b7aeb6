import StoryRules.Proofs.Datum
import StoryRules.Proofs.Engine.Progress
import StoryRules.Proofs.Engine.Protocol

/-!
# Attempts are all or nothing

An answer makes one complete attempt, or it changes nothing but that its puzzle may get a record: also where
the move meets a fault in entering a node.  An attempt is complete if it is counted and recorded, told of
once, and followed by the outcome that is due.  The one exception are answers that are scored with bytes in
them that encode no text: such an attempt is counted and then given up.

    (∃ q plain score, Completes setup g answer timeMs turn after q plain score) ∨
        Untouched setup g turn after ↔
      (Scored setup g answer → answer.Decodable)      (solve_allOrNothing)
-/

namespace StoryRules

variable {α : Type}

/-! ## What is told of answers -/

/-- The puzzle of which a note tells that an answer was scored, with the score. -/
def Note.completed? : Note α → Option (Puzzle α × Score α)
  | .event (.puzzleCompleted p score) => some (p, score)
  | _ => none

/-- The scored answers that the notes tell of. -/
def completions (notes : List (Note α)) : List (Puzzle α × Score α) := notes.filterMap Note.completed?

@[simp] theorem completions_append (notes more : List (Note α)) :
    completions (notes ++ more) = completions notes ++ completions more := List.filterMap_append ..

@[simp] theorem completions_logs (lines : List LogLine) :
    completions (lines.map (Note.log (α := α))) = [] := by
  induction lines with
  | nil => rfl
  | cons line rest ih => exact ih

@[simp] theorem completions_marks (g : Game α) : completions g.marks = completions g.notes :=
  filterMap_marks (fun _ _ => rfl) _

/-- These scored answers were told of, and no others. -/
def Game.ToldOf (told : List (Puzzle α × Score α)) (g : Game α) : Prop := completions g.notes = told

section

variable {told : List (Puzzle α × Score α)}

theorem note_toldOf {n : Note α} (h : n.completed? = none) :
    Keeps (Game.ToldOf told) (Play.note n) fun _ => True := by
  refine Keeps.update fun g hg => ?_
  show completions (g.notes ++ [n]) = told
  rw [completions_append, show completions g.notes = told from hg]
  show told ++ [n].filterMap Note.completed? = told
  rw [List.filterMap_cons_none h, List.filterMap_nil, List.append_nil]

theorem log_toldOf (line : LogLine) : Keeps (Game.ToldOf told) (Play.log line) fun _ => True :=
  note_toldOf rfl

theorem emitState_toldOf : Keeps (Game.ToldOf told) (Play.emitState (α := α)) fun _ => True :=
  Keeps.bind (R := fun _ => True) (Keeps.bind Keeps.get fun _ _ => Keeps.pure trivial) fun _ _ =>
    note_toldOf rfl

variable [Number α]

theorem drawVariant_toldOf (p : Puzzle α) :
    Keeps (Game.ToldOf told) (Play.drawVariant p) fun _ => True := by
  unfold Play.drawVariant
  split
  · exact Keeps.pure trivial
  · have hdraw : Keeps (Game.ToldOf told) (Play.draw (p.variants.map Weighted.weight)) fun _ => True :=
      Keeps.bind Keeps.get fun g hg => Keeps.bind (Keeps.set hg) fun _ _ => Keeps.lift fun _ _ => trivial
    refine Keeps.bind hdraw fun drawn _ => ?_
    cases drawn with
    | none => exact Keeps.pure trivial
    | some i =>
      dsimp only
      split
      · exact Keeps.pure trivial
      · split
        · exact Keeps.bind (log_toldOf _) fun _ _ => Keeps.pure trivial
        · split
          · exact Keeps.pure trivial
          · exact Keeps.bind (log_toldOf _) fun _ _ => Keeps.pure trivial

theorem arrive_toldOf (n : Node α) : Keeps (Game.ToldOf told) (Play.arrive n) fun _ => True := by
  have hpuzzle : Keeps (Game.ToldOf told) (Play.bringUp n.puzzle) fun _ => True := by
    unfold Play.bringUp
    split
    · exact Keeps.pure trivial
    · refine Keeps.bind (drawVariant_toldOf _) fun q _ => ?_
      exact Keeps.bind (Keeps.update fun g hg => hg) fun _ _ => note_toldOf rfl
  unfold Play.arrive
  refine Keeps.bind (log_toldOf _) fun _ _ => ?_
  refine Keeps.bind (note_toldOf rfl) fun _ _ => ?_
  refine Keeps.bind emitState_toldOf fun _ _ => ?_
  by_cases hend : n.isEnding = true
  · rw [if_pos hend]
    exact Keeps.bind (note_toldOf rfl) fun _ _ => hpuzzle
  · rw [if_neg hend]
    exact hpuzzle

variable (setup : Setup α)

theorem applyEffects_toldOf (effects : List (Effect α)) :
    Keeps (Game.ToldOf told) (Play.applyEffects setup effects) fun _ => True := by
  unfold Play.applyEffects
  refine Keeps.bind Keeps.get fun g hg => ?_
  refine Keeps.bind (Keeps.set hg) fun _ _ => ?_
  refine Keeps.bind (R := fun _ => True) (Keeps.update fun g hg => ?_) fun _ _ => ?_
  · show completions (g.notes ++ _) = told
    rw [completions_append, completions_logs, List.append_nil]
    exact hg
  · exact Keeps.bind (Keeps.lift fun _ _ => trivial) fun _ _ =>
      Keeps.bind (note_toldOf rfl) fun _ _ => Keeps.pure trivial

/-- Entering a node tells of no scored answer, whatever it meets. -/
theorem enter_toldOf (left : Nat) : ∀ id,
    Keeps (Game.ToldOf told) (Play.enter setup left id) fun _ => True := by
  induction left using Nat.strongRecOn with
  | ind left ih =>
    intro id
    unfold Play.enter
    split
    · exact Keeps.bind (log_toldOf _) fun _ _ => Keeps.pure trivial
    · next n _ =>
      have hstay : Keeps (Game.ToldOf told) (do Play.arrive n; return true) fun _ => True :=
        Keeps.bind (arrive_toldOf n) fun _ _ => Keeps.pure trivial
      have htarget : Keeps (Game.ToldOf told) (Play.entryTarget setup n) fun _ => True := by
        unfold Play.entryTarget
        split
        · exact Keeps.pure trivial
        · exact Keeps.bind (applyEffects_toldOf setup _) fun _ _ => Keeps.pure trivial
      refine Keeps.bind (R := fun _ => True) (Keeps.update fun g hg => hg) fun _ _ => ?_
      refine Keeps.bind htarget fun target _ => ?_
      cases target with
      | none => exact hstay
      | some target =>
        dsimp only
        split
        · exact Keeps.bind (log_toldOf _) fun _ _ => hstay
        · cases left with
          | zero => exact Keeps.bind (log_toldOf _) fun _ _ => hstay
          | succ left => exact Keeps.bind (log_toldOf _) fun _ _ => ih left (Nat.lt_succ_self left) _

theorem enterAny_toldOf (target : Option String) :
    Keeps (Game.ToldOf told) (Play.enterAny setup target) fun _ => True := by
  unfold Play.enterAny
  split
  · exact Keeps.pure trivial
  · exact Keeps.bind (enter_toldOf setup _ _) fun _ _ => Keeps.pure trivial

end

/-! ## Complete attempts -/

/-- A record after an attempt: one more is counted, the answer and its score are kept, and a right answer
solves the puzzle. -/
def Progress.attempted (r : Progress α) (plain : Datum α) (timeMs : Option Int) (score : Score α)
    (time : Int) : Progress α :=
  if score.correct then (r.recorded plain timeMs score).solvedBy time else r.recorded plain timeMs score

/-- The outcome that is due after an attempt: that of success for a right answer, and that of failure for
the last wrong one. -/
def Puzzle.due? (q : Puzzle α) (r : Progress α) (score : Score α) : Option (Outcome α) :=
  if score.correct then q.success
  else if q.exhausted (r.attempts + 1) then q.failure else none

variable [Number α]

/-- An answer is one that is scored: there is a puzzle in play, it is open, and the scorer gives a score. -/
def Scored (setup : Setup α) (g : Game α) (answer : Datum α) : Prop :=
  ∃ q given lines, g.activePuzzle? setup = some q ∧ q.IsOpen (g.state.progress q.id) ∧
    g.scorer setup q answer = (.ok given, lines)

/-- The effects of the outcome that an answer brings about come to an end. -/
def OutcomeEnds (setup : Setup α) (g : Game α) (answer : Datum α) (timeMs : Option Int) : Prop :=
  ∀ q score resolved judged,
    (Play.judge setup answer timeMs).run { g with notes := [] } = (.ok (.scored q score resolved), judged) →
    ∃ report applied, (Play.applyOutcome setup (resolved.bind q.outcome?)).run judged = (.ok report, applied)

/-- An outcome comes about, if there is one: its effects are applied where the answer has been recorded,
the answer is told of with the state that is left, and the node that it leads to is entered, whatever comes
of that. -/
def Concludes (setup : Setup α) (judged : Game α) (q : Puzzle α) (score : Score α)
    (o : Option (Outcome α)) (turn : Turn α) (after : Game α) : Prop :=
  ∃ report applied result entered,
    (Play.applyOutcome setup o).run judged = (.ok report, applied) ∧
    (Play.enterAny setup ((o.bind (·.next)).or (report.bind (·.goto)))).run
      ((applied.told (.puzzleCompleted q score)).told (.stateChanged applied.state)) = (result, entered) ∧
    after = { entered with notes := [] } ∧ turn.notes = entered.notes

/-- A turn makes one complete attempt at the puzzle in play. -/
structure Completes (setup : Setup α) (g : Game α) (answer : Datum α) (timeMs : Option Int)
    (turn : Turn α) (after : Game α) (q : Puzzle α) (plain : Datum α) (score : Score α) : Prop where
  active : g.activePuzzle? setup = some q
  copied : answer.plain = .ok plain
  scored : ∃ given lines, g.scorer setup q answer = (.ok given, lines) ∧
    score = q.scoreInTime (g.state.progress q.id).attempts timeMs given
  record : after.state.progress q.id =
    (g.state.progress q.id).attempted plain timeMs score g.clock.next.1
  others : ∀ id, id ≠ q.id → after.state.progress id = g.state.progress id
  told : completions turn.notes = [(q, score)]
  concluded : ∃ judged : Game α, kinds judged.notes = [] ∧ judged.active = g.active ∧
    judged.state = g.state.setProgress q.id
      ((g.state.progress q.id).attempted plain timeMs score g.clock.next.1) ∧
    Concludes setup judged q score (q.due? (g.state.progress q.id) score) turn after

/-- A turn changes nothing but that the puzzle in play may get a record, which says nothing yet, and tells
of nothing. -/
structure Untouched (setup : Setup α) (g : Game α) (turn : Turn α) (after : Game α) : Prop where
  state : after.state = g.state ∨
    ∃ q, g.activePuzzle? setup = some q ∧ after.state = g.state.openProgress q.id
  active : after.active = g.active
  silent : kinds turn.notes = []

section

variable {setup : Setup α} {g after : Game α} {answer : Datum α} {timeMs : Option Int}

/-- An answer that is not scored is turned away. -/
theorem judge_unscored (timeMs : Option Int) (h : ¬Scored setup g answer) :
    ∃ a after, (Play.judge setup answer timeMs).run g = (.ok (.dismissed a), after) ∧
      after.active = g.active ∧ after.marks = g.marks ∧ (after.state = g.state ∨
        ∃ q, g.activePuzzle? setup = some q ∧ after.state = g.state.openProgress q.id) := by
  have hquiet : ∀ {a after}, (Play.judge setup answer timeMs).run g = (.ok (.dismissed a), after) →
      after.marks = g.marks := fun hrun => (Play.judge_told hrun).1
  cases hq : g.activePuzzle? setup with
  | none =>
    have hrun : (Play.judge setup answer timeMs).run g = _ := Play.judge_none hq
    exact ⟨_, _, hrun, rfl, hquiet hrun, .inl rfl⟩
  | some q =>
    by_cases hopen : q.IsOpen (g.state.progress q.id)
    · rcases hscore : g.scorer setup q answer with ⟨message | given, lines⟩
      · have hrun : (Play.judge setup answer timeMs).run g = _ := Play.judge_failed hq hopen hscore
        exact ⟨_, _, hrun, rfl, hquiet hrun, .inr ⟨q, rfl, rfl⟩⟩
      · exact absurd ⟨q, given, lines, hq, hopen, hscore⟩ h
    · have hrun : (Play.judge setup answer timeMs).run g = _ := Play.judge_closed hq hopen
      exact ⟨_, _, hrun, rfl, hquiet hrun, .inr ⟨q, rfl, rfl⟩⟩

theorem solve_unscored (timeMs : Option Int) (h : ¬Scored setup g answer) :
    Untouched setup g (g.move setup (.solve answer timeMs)).1
      (g.move setup (.solve answer timeMs)).2 := by
  obtain ⟨a, after, hrun, hactive, hmarks, hstate⟩ :=
    judge_unscored (g := { g with notes := [] }) timeMs h
  rw [Game.move_run (m := .solve answer timeMs) rfl (Play.solve_dismissed hrun)]
  refine ⟨hstate, hactive, ?_⟩
  show kinds after.notes = []
  rw [← kinds_marks, hmarks]
  rfl

/-- An answer that is scored and has a plain copy is recorded as an attempt. -/
theorem Game.judged_attempted {q : Puzzle α} {plain : Datum α} (hplain : answer.plain = .ok plain)
    (timeMs : Option Int) (given : Score α) (lines : List LogLine) :
    let score := q.scoreInTime (g.state.progress q.id).attempts timeMs given
    ∃ resolved judged, g.judged q answer timeMs given lines = (.ok (.scored q score resolved), judged) ∧
      resolved.bind q.outcome? = q.due? (g.state.progress q.id) score ∧
      judged.active = g.active ∧ judged.marks = g.marks ∧
      judged.state = g.state.setProgress q.id
        ((g.state.progress q.id).attempted plain timeMs score g.clock.next.1) := by
  have hmarks := Play.judged_marks g q answer timeMs given lines
  unfold Game.judged at hmarks ⊢
  rw [hplain] at hmarks ⊢
  dsimp only at hmarks ⊢
  generalize q.scoreInTime (g.state.progress q.id).attempts timeMs given = score at hmarks ⊢
  unfold Puzzle.due? Progress.attempted
  cases hcorrect : score.correct with
  | true =>
    rw [hcorrect] at hmarks
    exact ⟨_, _, rfl, rfl, rfl, hmarks, rfl⟩
  | false =>
    rw [hcorrect] at hmarks
    refine ⟨_, _, rfl, ?_, rfl, hmarks, rfl⟩
    show (if q.exhausted ((g.state.progress q.id).attempts + 1) then some false else none).bind _ = _
    cases q.exhausted ((g.state.progress q.id).attempts + 1) <;> rfl

/-- What a settled answer is answered with in the game that it leaves. -/
def Game.settled (g : Game α) (q : Puzzle α) (score : Score α) (report : Option EffectReport) : Attempt α :=
  { success := score.correct, score := some score, attempts := (g.state.progress q.id).attempts
    solved := (g.state.progress q.id).solved, node := some g.state.currentNode, report }

/-- A settled answer is answered unless the node that it leads to cannot be entered. -/
theorem settle_run {q : Puzzle α} (score : Score α) {resolved : Option Bool} {judged applied entered : Game α}
    {report : Option EffectReport} {result : Except Fault Unit}
    (happly : (Play.applyOutcome setup (resolved.bind q.outcome?)).run judged = (.ok report, applied))
    (henter : (Play.enterAny setup
      (((resolved.bind q.outcome?).bind (·.next)).or (report.bind (·.goto)))).run
        ((applied.told (.puzzleCompleted q score)).told (.stateChanged applied.state)) =
      (result, entered)) :
    (Play.settle setup q score resolved).run judged =
      (result.map fun _ => entered.settled q score report, entered) := by
  unfold Play.settle
  rw [Step.run_bind, happly]
  dsimp only
  rw [Step.run_bind, Play.emit_run]
  dsimp only
  rw [Step.run_bind, Play.emitState_run]
  dsimp only
  rw [Step.run_bind, Game.state_told, henter]
  cases result <;> rfl

omit [Number α] in
theorem completions_effectsMarks (report : Option EffectReport) :
    completions (effectsMarks (α := α) report) = [] := by
  cases report <;> rfl

/-- Where an outcome comes about behind an answer of which nothing was told yet, that answer is told of, and
no other one. -/
theorem concludes_toldOf {judged applied entered : Game α} {o : Option (Outcome α)}
    {report : Option EffectReport} {result : Except Fault Unit} (q : Puzzle α) (score : Score α)
    {target : Option String} (hjudged : completions judged.notes = [])
    (happly : (Play.applyOutcome setup o).run judged = (.ok report, applied))
    (henter : (Play.enterAny setup target).run
      ((applied.told (.puzzleCompleted q score)).told (.stateChanged applied.state)) = (result, entered)) :
    completions entered.notes = [(q, score)] := by
  have happlied : completions applied.notes = [] := by
    rw [← completions_marks, Play.applyOutcome_marks happly, completions_append,
      completions_effectsMarks, completions_marks, hjudged]
    rfl
  have hstart : Game.ToldOf [(q, score)]
      ((applied.told (.puzzleCompleted q score)).told (.stateChanged applied.state)) := by
    show completions ((applied.notes ++ [_]) ++ [_]) = _
    rw [completions_append, completions_append, happlied]
    rfl
  obtain ⟨htold, -⟩ := enterAny_toldOf setup target _ hstart
  rwa [henter] at htold

/-- An answer that is scored and has a plain copy makes a complete attempt. -/
theorem solve_completes {q : Puzzle α} {plain : Datum α} {given : Score α} {lines : List LogLine}
    (hends : OutcomeEnds setup g answer timeMs) (hq : g.activePuzzle? setup = some q)
    (hopen : q.IsOpen (g.state.progress q.id)) (hscore : g.scorer setup q answer = (.ok given, lines))
    (hplain : answer.plain = .ok plain) :
    Completes setup g answer timeMs (g.move setup (.solve answer timeMs)).1
      (g.move setup (.solve answer timeMs)).2 q plain
      (q.scoreInTime (g.state.progress q.id).attempts timeMs given) := by
  obtain ⟨resolved, judged, hjudged, hdue, hactive, hmarks, hstate⟩ :=
    Game.judged_attempted (g := { g with notes := [] }) (q := q) hplain timeMs given lines
  have hjudge := (Play.judge_scored (g := { g with notes := [] }) hq hopen hscore).trans hjudged
  obtain ⟨report, applied, happly⟩ := hends _ _ _ _ hjudge
  rcases henter : (Play.enterAny setup
    (((resolved.bind q.outcome?).bind (·.next)).or (report.bind (·.goto)))).run
      ((applied.told (.puzzleCompleted q (q.scoreInTime (g.state.progress q.id).attempts timeMs given))).told
        (.stateChanged applied.state)) with ⟨result, entered⟩
  have hsettle := settle_run _ happly henter
  have hsolve := (Play.solve_scored hjudge).trans hsettle
  -- the record is complete before the outcome comes about, which keeps it whatever it meets
  have hrecords : judged.state.KeepsRecords entered.state := by
    have h := ((keepsRecords_upheld setup judged.state).settle (p := q) trivial
      (q.scoreInTime (g.state.progress q.id).attempts timeMs given) resolved).records
    rwa [hsettle] at h
  rw [Game.move_run (m := .solve answer timeMs) rfl hsolve]
  refine ⟨hq, hplain, ⟨given, lines, hscore, rfl⟩, ?record, ?others, ?told, judged, ?quiet, hactive,
    hstate, ?concluded⟩
  case record =>
    show entered.state.progress q.id = _
    rw [hrecords.records, hstate, State.progress_setProgress_self]
  case others =>
    intro id hid
    show entered.state.progress id = _
    rw [hrecords.records, hstate, State.progress_setProgress_of_ne _ _ (Ne.symm hid)]
  case told =>
    refine concludes_toldOf q _ ?_ happly henter
    rw [← completions_marks, hmarks]
    rfl
  case quiet =>
    rw [← kinds_marks, hmarks]
    rfl
  case concluded =>
    rw [hdue] at happly henter
    exact ⟨report, applied, result, entered, happly, henter, rfl, rfl⟩

/-- An answer that is scored but has no plain copy is counted, and then the attempt is given up. -/
theorem solve_givesUp {q : Puzzle α} {given : Score α} {lines : List LogLine}
    (hq : g.activePuzzle? setup = some q) (hopen : q.IsOpen (g.state.progress q.id))
    (hscore : g.scorer setup q answer = (.ok given, lines)) (hplain : answer.plain = .error .undecodable) :
    (g.move setup (.solve answer timeMs)).2.state =
      g.state.setProgress q.id (g.state.progress q.id).counted := by
  have hjudged : ∃ judged : Game α,
      (Game.judged { g with notes := [] } q answer timeMs given lines) = (.error .undecodable, judged) ∧
        judged.state = g.state.setProgress q.id (g.state.progress q.id).counted := by
    unfold Game.judged
    rw [hplain]
    exact ⟨_, rfl, rfl⟩
  obtain ⟨judged, hjudged, hstate⟩ := hjudged
  have hjudge := (Play.judge_scored (g := { g with notes := [] }) hq hopen hscore).trans hjudged
  have hsolve : (Play.solve setup answer timeMs).run { g with notes := [] } =
      (.error .undecodable, judged) := by
    unfold Play.solve
    rw [Step.run_bind, hjudge]
  rw [Game.move_run (m := .solve answer timeMs) rfl hsolve]
  exact hstate

/-- The effects of the outcome come to an end where an answer is answered. -/
theorem outcomeEnds_of_returns {a : Attempt α}
    (h : ((Play.solve setup answer timeMs).run { g with notes := [] }).1 = .ok a) :
    OutcomeEnds setup g answer timeMs := by
  intro q score resolved judged hjudge
  rw [Play.solve_scored hjudge] at h
  have hsettle : (Play.settle setup q score resolved).run judged =
      (.ok a, ((Play.settle setup q score resolved).run judged).2) := Prod.ext h rfl
  obtain ⟨report, applied, happly, -⟩ := Step.run_bind_eq_ok.1 hsettle
  exact ⟨report, applied, happly⟩

/-- Provided that the effects of the outcome come to an end, an answer makes one complete attempt or changes
nothing, unless it is scored and has bytes in it that encode no text. -/
theorem solve_allOrNothing (hends : OutcomeEnds setup g answer timeMs) :
    let turn := (g.move setup (.solve answer timeMs)).1
    let after := (g.move setup (.solve answer timeMs)).2
    (∃ q plain score, Completes setup g answer timeMs turn after q plain score) ∨
        Untouched setup g turn after ↔
      (Scored setup g answer → answer.Decodable) := by
  constructor
  · rintro (⟨q, plain, score, hcompletes⟩ | huntouched) hscored
    · exact Datum.plain_isOk_iff.1 ⟨plain, hcompletes.copied⟩
    · obtain ⟨q, given, lines, hq, hopen, hscore⟩ := hscored
      rcases answer.plain_cases with ⟨hdecodable, -⟩ | ⟨-, hplain⟩
      · exact hdecodable
      · have hcounted : (g.move setup (.solve answer timeMs)).2.state = _ :=
          solve_givesUp hq hopen hscore hplain
        have hattempts : ((g.move setup (.solve answer timeMs)).2.state.progress q.id).attempts =
            (g.state.progress q.id).attempts + 1 := by
          rw [hcounted, State.progress_setProgress_self]
          rfl
        -- a record that is merely opened reads as before, and this one has one attempt more
        have hsame : (g.move setup (.solve answer timeMs)).2.state.progress q.id =
            g.state.progress q.id := by
          rcases huntouched.state with hstate | ⟨p, -, hstate⟩
          · rw [hstate]
          · rw [hstate, State.progress_openProgress]
        rw [hsame] at hattempts
        omega
  · intro hdecodable
    by_cases hscored : Scored setup g answer
    · obtain ⟨plain, hplain⟩ := Datum.plain_isOk_iff.2 (hdecodable hscored)
      obtain ⟨q, given, lines, hq, hopen, hscore⟩ := hscored
      exact .inl ⟨q, plain, _, solve_completes hends hq hopen hscore hplain⟩
    · exact .inr (solve_unscored timeMs hscored)

end

/-- The right answer to the riddle makes a complete attempt. -/
theorem riddle_allOrNothing :
    let g := ((Setup.riddle.newGame none (.always (.int 0)) (.always 0)).move Setup.riddle .start).2
    let answer : Datum Amount := .list [.whole 1]
    let turn := (g.move Setup.riddle (.solve answer none)).1
    let after := (g.move Setup.riddle (.solve answer none)).2
    OutcomeEnds Setup.riddle g answer none ∧ answer.Decodable ∧
      ∃ q plain score, Completes Setup.riddle g answer none turn after q plain score := by
  intro g answer turn after
  have hreturns : ((Play.solve Setup.riddle answer none).run { g with notes := [] }).1.toOption.isSome =
      true := by
    decide +kernel
  have hends : OutcomeEnds Setup.riddle g answer none := by
    cases hsolve : ((Play.solve Setup.riddle answer none).run { g with notes := [] }).1 with
    | error fault =>
      rw [hsolve] at hreturns
      cases hreturns
    | ok a => exact outcomeEnds_of_returns hsolve
  have hdecodable : answer.Decodable := ⟨trivial, trivial⟩
  refine ⟨hends, hdecodable, ?_⟩
  rcases (solve_allOrNothing hends).2 fun _ => hdecodable with hcompletes | huntouched
  · exact hcompletes
  · have hsilent := huntouched.silent
    have htold : kinds turn.notes ≠ [] := by decide +kernel
    exact absurd hsilent htold

/-- An answer to the riddle that is no text is counted, and is neither told of nor kept. -/
theorem riddle_attempt_lost :
    let g := ((Setup.riddle.newGame none (.always (.int 0)) (.always 0)).move Setup.riddle .start).2
    let answer : Datum Amount := .bytes [0xff]
    let turn := (g.move Setup.riddle (.solve answer none)).1
    let after := (g.move Setup.riddle (.solve answer none)).2
    OutcomeEnds Setup.riddle g answer none ∧
      ¬((∃ q plain score, Completes Setup.riddle g answer none turn after q plain score) ∨
        Untouched Setup.riddle g turn after) := by
  intro g answer turn after
  have hplain : answer.plain.toOption.isSome = false := by decide +kernel
  have hfault : ((Play.judge Setup.riddle answer none).run { g with notes := [] }).1.toOption.isSome =
      false := by
    decide +kernel
  have hcounted : (after.state.progress "riddle").attempts = (g.state.progress "riddle").attempts + 1 := by
    decide +kernel
  refine ⟨?_, ?_⟩
  · intro q score resolved judged hjudge
    rw [hjudge] at hfault
    cases hfault
  · rintro (⟨q, plain, score, hcompletes⟩ | huntouched)
    · rw [hcompletes.copied] at hplain
      cases hplain
    · have hsame : (after.state.progress "riddle").attempts = (g.state.progress "riddle").attempts := by
        rcases huntouched.state with hstate | ⟨p, -, hstate⟩
        · rw [hstate]
        · rw [hstate, State.progress_openProgress]
      omega

end StoryRules
