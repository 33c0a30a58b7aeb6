import StoryRules.Proofs.Engine.Attempt
import StoryRules.Proofs.Engine.Chain
import StoryRules.Proofs.Engine.Returns

/-!
# The transition that an attempt makes

An answer that is scored makes one transition.  It is right if the scorer says so and it came in time, where
more time is given after some attempts.  It is counted and recorded, the outcome that is due comes about, and
the node is entered that the outcome names, or else the one that its effects jump to first.  The answer tells of
all this, unless a variant cannot be drawn for the puzzle of the node that is entered.

    AttemptEnds setup (g.recorded q plain timeMs score) (q.due? r score) →
      Transits setup g q plain timeMs given score (q.due? r score) turn after      (solve_transits)
-/

namespace StoryRules

variable {α : Type}

/-! ## What is due -/

/-- The time that a puzzle adds to its limit after some attempts. -/
def Puzzle.extraAfter (p : Puzzle α) (attempts : Int) : Int :=
  match p.dynamic.bind Dynamic.attemptsAbove with
  | some above => if above < attempts then (p.dynamic.bind Dynamic.extraTime).getD 0 else 0
  | none => 0

/-- An answer took longer than it may: its time is told, and it is beyond the limit that the puzzle has, with
the time that is added. -/
def Puzzle.Overtime (p : Puzzle α) (attempts : Int) (timeMs : Option Int) : Prop :=
  ∃ time limit, timeMs = some time ∧ p.timeLimit = some limit ∧ limit + p.extraAfter attempts < time

/-- Which outcome an answer brings about after some attempts: that of success if it is right, that of failure if
it is wrong and there is no attempt after it, and else none. -/
inductive Puzzle.Brings (p : Puzzle α) (attempts : Int) (correct : Bool) : Option (Outcome α) → Prop
  | success : correct = true → Brings p attempts correct p.success
  | failure {most : Int} : correct = false → p.attemptsMax = some most → most ≤ attempts + 1 →
    Brings p attempts correct p.failure
  | pending : correct = false → (∀ most, p.attemptsMax = some most → attempts + 1 < most) →
    Brings p attempts correct none

theorem Puzzle.timeFor_eq (p : Puzzle α) (attempts : Int) :
    p.timeFor attempts = p.timeLimit.map (· + p.extraAfter attempts) := by
  unfold timeFor extraAfter
  refine congrArg (fun f => p.timeLimit.map f) (funext fun limit => ?_)
  rcases p.dynamic with _ | ⟨_ | above, cost, _ | extra⟩
  · exact (Int.add_zero limit).symm
  · exact (Int.add_zero limit).symm
  · exact (Int.add_zero limit).symm
  · show limit = limit + if above < attempts then 0 else 0
    rw [ite_self, Int.add_zero]
  · show (if attempts > above then limit + extra else limit) = limit + if above < attempts then extra else 0
    split
    · rfl
    · exact (Int.add_zero limit).symm

theorem Puzzle.isLate_iff {p : Puzzle α} {attempts : Int} {timeMs : Option Int} :
    p.isLate attempts timeMs = true ↔ p.Overtime attempts timeMs := by
  unfold isLate Overtime
  rw [timeFor_eq]
  cases timeMs with
  | none => simp
  | some time =>
    cases p.timeLimit with
    | none => simp
    | some limit => simp

theorem Puzzle.due_brings (p : Puzzle α) (r : Progress α) (score : Score α) :
    p.Brings r.attempts score.correct (p.due? r score) := by
  unfold due?
  cases hcorrect : score.correct with
  | true => exact .success rfl
  | false =>
    rw [if_neg Bool.false_ne_true]
    unfold exhausted
    cases hmost : p.attemptsMax with
    | none => exact .pending rfl (by simp [hmost])
    | some most =>
      dsimp only
      split
      · next hlast => exact .failure rfl hmost (by simpa using hlast)
      · next hmore =>
        refine .pending rfl fun _ h => ?_
        cases hmost.symm.trans h
        simpa using hmore

/-- The record of an attempt at a puzzle that was not solved. -/
theorem Progress.attempted_eq {r : Progress α} (hopen : r.solved = false) (plain : Datum α)
    (timeMs : Option Int) (score : Score α) (time : Int) :
    r.attempted plain timeMs score time =
      { r with
        attempts := r.attempts + 1
        lastAnswer := plain
        score := some score.score
        timeMs := timeMs.or r.timeMs
        solved := score.correct
        solvedAt := if score.correct then some time else r.solvedAt } := by
  unfold attempted
  cases hcorrect : score.correct with
  | true => rfl
  | false =>
    rw [if_neg Bool.false_ne_true, if_neg Bool.false_ne_true, ← hopen]
    rfl

/-- The effects of an outcome, if there is one. -/
def dueEffects (o : Option (Outcome α)) : List (Effect α) := o.elim [] (·.effects)

variable [Number α]

/-- The scene in which an attempt has been recorded; the clock is read for a right answer. -/
def Game.recorded (g : Game α) (q : Puzzle α) (plain : Datum α) (timeMs : Option Int) (score : Score α) :
    Scene α :=
  { state := g.state.setProgress q.id ((g.state.progress q.id).attempted plain timeMs score g.clock.next.1)
    draws := g.draws
    clock := if score.correct then g.clock.next.2 else g.clock }

/-- The effects of an outcome that comes about in a scene meet no fault, nor do the entry effects of the nodes
that it leads to. -/
structure AttemptEnds (setup : Setup α) (start : Scene α) (o : Option (Outcome α)) : Prop where
  outcome : ∃ found applied, (Effect.applyAll setup.story (dueEffects o)).run start = (.ok found, applied)
  entries : ∀ found applied, (Effect.applyAll setup.story (dueEffects o)).run start = (.ok found, applied) →
    ∀ id n, (o.bind (·.next)).or found.goto = some id → setup.story.node? id = some n →
      EntriesEnd setup { applied with log := [] } n

/-- Where a target leads from a scene, and what comes of the arrival: there is none, or it is no node of the
story, and the game stays, or the node is entered. -/
inductive Arrives (setup : Setup α) (start : Scene α) :
    Option String → State α → Except Fault Unit → Prop
  | stays : Arrives setup start none start.state (.ok ())
  | lost {id : String} : setup.story.node? id = none → Arrives setup start (some id) start.state (.ok ())
  | settles {id : String} {n last : Node α} {chain : List (Node α)} {left : Scene α} :
    setup.story.node? id = some n → Settles setup start n chain last left →
    Arrives setup start (some id) left.state (last.arrival left.draws)

/-- A turn judges an answer to a puzzle, which the scorer has given a score, and does what follows from it. -/
structure Transits (setup : Setup α) (g : Game α) (q : Puzzle α) (plain : Datum α) (timeMs : Option Int)
    (given score : Score α) (o : Option (Outcome α)) (turn : Turn α) (after : Game α) : Prop where
  judged : score.correct = true ↔
    given.correct = true ∧ ¬q.Overtime (g.state.progress q.id).attempts timeMs
  scored : ¬q.Overtime (g.state.progress q.id).attempts timeMs → score = given
  late : q.Overtime (g.state.progress q.id).attempts timeMs → score = .late
  brings : q.Brings (g.state.progress q.id).attempts score.correct o
  record : after.state.progress q.id =
    { g.state.progress q.id with
      attempts := (g.state.progress q.id).attempts + 1
      lastAnswer := plain
      score := some score.score
      timeMs := timeMs.or (g.state.progress q.id).timeMs
      solved := score.correct
      solvedAt := if score.correct then some g.clock.next.1 else (g.state.progress q.id).solvedAt }
  others : ∀ id, id ≠ q.id → after.state.progress id = g.state.progress id
  follows : ∃ performed found applied arrival,
    (Effect.applyAll setup.story (dueEffects o)).run (g.recorded q plain timeMs score) =
      (.ok found, applied) ∧
    Effect.Performs setup.story (g.recorded q plain timeMs score) (dueEffects o) performed applied ∧
    Arrives setup { applied with log := [] } ((o.bind (·.next)).or (performed.findSome? Effect.target?))
      after.state arrival ∧
    turn.reply = arrival.map fun _ => .attempted
      { success := score.correct
        score := some score
        attempts := (g.state.progress q.id).attempts + 1
        solved := score.correct
        node := some after.state.currentNode
        report := if (dueEffects o).isEmpty then none else some found }

/-! ## Steps -/

section

variable {setup : Setup α} {g : Game α} {q : Puzzle α} {answer plain : Datum α} {timeMs : Option Int}
  {given : Score α} {lines : List LogLine}

theorem Game.judged_scene (hplain : answer.plain = .ok plain) (timeMs : Option Int) (given : Score α)
    (lines : List LogLine) :
    (g.judged q answer timeMs given lines).2.scene =
      g.recorded q plain timeMs (q.scoreInTime (g.state.progress q.id).attempts timeMs given) := by
  unfold judged recorded Progress.attempted
  rw [hplain]
  dsimp only
  cases (q.scoreInTime (g.state.progress q.id).attempts timeMs given).correct <;> rfl

/-- The effects of an outcome that meet no fault are applied, and told of if there are any. -/
theorem Play.applyOutcome_run {o : Option (Outcome α)} {found : EffectReport} {applied : Scene α}
    (h : (Effect.applyAll setup.story (dueEffects o)).run g.scene = (.ok found, applied)) :
    ∃ after, (Play.applyOutcome setup o).run g =
      (.ok (if (dueEffects o).isEmpty then none else some found), after) ∧
      after.scene = { applied with log := [] } := by
  unfold Play.applyOutcome
  cases o with
  | none =>
    cases h
    exact ⟨g, rfl, rfl⟩
  | some o =>
    have h : (Effect.applyAll setup.story o.effects).run g.scene = (.ok found, applied) := h
    show ∃ after, (Play.applyAny setup o.effects).run g =
      (.ok (if o.effects.isEmpty then none else some found), after) ∧ _
    unfold Play.applyAny
    split
    · next hnone =>
      rw [List.isEmpty_iff.1 hnone] at h
      cases h
      exact ⟨g, rfl, rfl⟩
    · rw [Step.run_map, Play.applyEffects_run, h]
      exact ⟨_, rfl, rfl⟩

/-- Where there are no effects there is no report, and no jump either. -/
theorem goto_report {story : Story α} {effects : List (Effect α)} {found : EffectReport}
    {start applied : Scene α} (h : (Effect.applyAll story effects).run start = (.ok found, applied)) :
    (if effects.isEmpty then none else some found).bind EffectReport.goto = found.goto := by
  split
  · next hnone =>
    rw [List.isEmpty_iff.1 hnone] at h
    cases h
    rfl
  · rfl

/-- A target is entered if there is one, and leads to the end of a chain. -/
theorem Play.enterAny_arrives {target : Option String}
    (hends : ∀ id n, target = some id → setup.story.node? id = some n → EntriesEnd setup g.scene n) :
    ∃ arrival entered, (Play.enterAny setup target).run g = (arrival, entered) ∧
      Arrives setup g.scene target entered.state arrival := by
  cases target with
  | none => exact ⟨.ok (), g, rfl, .stays⟩
  | some id =>
    have hrun : (Play.enterAny setup (some id)).run g =
        ((Play.enterNode setup id >>= fun _ => pure ()) : Play α Unit).run g := rfl
    rw [hrun, Step.run_bind]
    cases hn : setup.story.node? id with
    | none =>
      unfold Play.enterNode
      rw [Play.enter_missing _ hn]
      exact ⟨.ok (), _, rfl, .lost hn⟩
    | some n =>
      obtain ⟨chain, last, left, entered, hsettles, henter, hstate⟩ :=
        Play.enter_settles (g := g) (hends id n rfl hn) hn .here (Nat.zero_add _)
      have henter : (Play.enterNode setup id).run g =
          ((last.arrival left.draws).map fun _ => true, entered) := henter
      rw [henter]
      refine ⟨last.arrival left.draws, entered, ?_, hstate ▸ .settles hn hsettles⟩
      cases last.arrival left.draws <;> rfl

/-- What was judged brings about its outcome, and is answered unless the arrival at a node fails. -/
theorem solve_follows {score : Score α} {resolved : Option Bool} {judged : Game α}
    {o : Option (Outcome α)}
    (hjudge : (Play.judge setup answer timeMs).run { g with notes := [] } =
      (.ok (.scored q score resolved), judged))
    (hdue : resolved.bind q.outcome? = o) (hends : AttemptEnds setup judged.scene o) :
    OutcomeEnds setup g answer timeMs ∧ ∃ performed found applied arrival,
      (Effect.applyAll setup.story (dueEffects o)).run judged.scene = (.ok found, applied) ∧
      Effect.Performs setup.story judged.scene (dueEffects o) performed applied ∧
      Arrives setup { applied with log := [] } ((o.bind (·.next)).or (performed.findSome? Effect.target?))
        (g.move setup (.solve answer timeMs)).2.state arrival ∧
      (g.move setup (.solve answer timeMs)).1.reply = arrival.map fun _ => .attempted
        ((g.move setup (.solve answer timeMs)).2.settled q score
          (if (dueEffects o).isEmpty then none else some found)) := by
  subst hdue
  obtain ⟨⟨found, applied, happly⟩, hentries⟩ := hends
  obtain ⟨performed, hperforms, hgoto⟩ := Effect.applyAll_performs happly
  obtain ⟨settled, houtcome, hsettled⟩ := Play.applyOutcome_run happly
  -- all that may fail behind the effects is the arrival at the node that is entered
  let told := (settled.told (.puzzleCompleted q score)).told (.stateChanged settled.state)
  have hends : ∀ id n, ((resolved.bind q.outcome?).bind (·.next)).or found.goto = some id →
      setup.story.node? id = some n → EntriesEnd setup told.scene n := by
    intro id n htarget hn
    show EntriesEnd setup settled.scene n
    rw [hsettled]
    exact hentries found applied happly id n htarget hn
  obtain ⟨arrival, entered, henter, harrives⟩ := Play.enterAny_arrives hends
  have hscene : told.scene = { applied with log := [] } := hsettled
  rw [hscene, hgoto] at harrives
  rw [← goto_report happly] at henter
  have hsolve := (Play.solve_scored hjudge).trans (settle_run score houtcome henter)
  refine ⟨fun q' score' resolved' judged' h => ?_, performed, found, applied, arrival, happly, hperforms, ?_⟩
  · cases hjudge.symm.trans h
    exact ⟨_, _, houtcome⟩
  · rw [Game.move_run (m := .solve answer timeMs) rfl hsolve]
    refine ⟨harrives, ?_⟩
    cases arrival <;> rfl

/-- An answer that is scored while its puzzle is open makes one transition. -/
theorem solve_transits (timeMs : Option Int) (hq : g.activePuzzle? setup = some q)
    (hopen : q.IsOpen (g.state.progress q.id)) (hscore : g.scorer setup q answer = (.ok given, lines))
    (hplain : answer.plain = .ok plain)
    (hends : AttemptEnds setup
      (g.recorded q plain timeMs (q.scoreInTime (g.state.progress q.id).attempts timeMs given))
      (q.due? (g.state.progress q.id) (q.scoreInTime (g.state.progress q.id).attempts timeMs given))) :
    let r := g.state.progress q.id
    let score := q.scoreInTime r.attempts timeMs given
    let turn := (g.move setup (.solve answer timeMs)).1
    let after := (g.move setup (.solve answer timeMs)).2
    Transits setup g q plain timeMs given score (q.due? r score) turn after := by
  intro r score turn after
  obtain ⟨resolved, judged, hjudged, hdue, -⟩ :=
    Game.judged_attempted (g := { g with notes := [] }) (q := q) hplain timeMs given lines
  have hjudge := (Play.judge_scored (g := { g with notes := [] }) hq hopen hscore).trans hjudged
  have hscene : judged.scene = g.recorded q plain timeMs score := by
    have h := Game.judged_scene (g := { g with notes := [] }) (q := q) hplain timeMs given lines
    rwa [hjudged] at h
  rw [← hscene] at hends
  obtain ⟨houtcome, performed, found, applied, arrival, happly, hperforms, harrives, hreply⟩ :=
    solve_follows hjudge hdue hends
  have hcompletes : Completes setup g answer timeMs turn after q plain score :=
    solve_completes houtcome hq hopen hscore hplain
  have hrecord := hcompletes.record.trans (Progress.attempted_eq hopen.1 plain timeMs score g.clock.next.1)
  have hintime : ¬q.Overtime r.attempts timeMs → score = given := by
    intro h
    exact if_neg (mt Puzzle.isLate_iff.1 h)
  have hlate : q.Overtime r.attempts timeMs → score = .late := by
    intro h
    exact if_pos (Puzzle.isLate_iff.2 h)
  rw [hscene] at happly hperforms
  refine
    { judged := ?judged, scored := hintime, late := hlate, brings := q.due_brings r score, record := hrecord
      others := hcompletes.others
      follows := ⟨performed, found, applied, arrival, happly, hperforms, harrives, ?reply⟩ }
  case judged =>
    by_cases h : q.Overtime r.attempts timeMs
    · rw [hlate h]
      exact ⟨nofun, fun hright => absurd h hright.2⟩
    · rw [hintime h]
      exact ⟨fun hright => ⟨hright, h⟩, And.left⟩
  case reply =>
    rw [hreply]
    unfold Game.settled
    rw [hrecord]

end

/-! ## Out of the cell -/

/-- A game in the cell, where the wheel in the hall has some weight. -/
def cellGame (weight : Int) : Game Amount :=
  let setup := Setup.cell weight
  ((setup.newGame none (.always (.float 0.5)) (.always 0)).move setup .start).2

section

variable {weight : Int}

theorem Story.cell_mayPlay {q : Puzzle Amount} (h : (Story.cell weight).MayPlay q) (hid : q.id = "bolt") :
    q = .bolt := by
  obtain ⟨n, hn, p, hp, hq⟩ := h
  have hown : q.id = p.id := by
    rcases hq with rfl | ⟨v, -, made, -, rfl⟩ <;> rfl
  simp only [cell, List.mem_cons, List.not_mem_nil, or_false] at hn
  rcases hn with rfl | rfl | rfl
  · cases hp
    rcases hq with rfl | ⟨v, hv, -⟩
    · rfl
    · cases hv
  · cases hp
    have hid : "wheel" = "bolt" := hown.symm.trans hid
    exact absurd hid (by decide)
  · cases hp

/-- The bolt is in play in the cell if a puzzle with its id is. -/
theorem cellGame_activePuzzle?
    (hid : ((cellGame weight).activePuzzle? (Setup.cell weight)).map Puzzle.id = some "bolt") :
    (cellGame weight).activePuzzle? (Setup.cell weight) = some .bolt := by
  have hg : (staged (Setup.cell weight).story).Stands (cellGame weight) :=
    (staged_upheld.play (staged_bears _) [.start] _ ⟨trivial, by rintro q ⟨⟩⟩).1
  obtain ⟨q, hq, hid⟩ := Option.map_eq_some_iff.1 hid
  obtain rfl := Story.cell_mayPlay (staged_upheld.activePuzzle? hg hq) hid
  exact hq

/-- No outcome of the bolt has effects, and none of the nodes that it leads to. -/
theorem Setup.cell_attemptEnds (start : Scene Amount) (r : Progress Amount) (score : Score Amount) :
    AttemptEnds (Setup.cell weight) start (Puzzle.bolt.due? r score) := by
  have hquiet : dueEffects (Puzzle.bolt.due? r score) = [] := by
    unfold Puzzle.due?
    split
    · rfl
    · split <;> rfl
  refine ⟨?_, fun found applied _ id n _ hn => Setup.cell_entriesEnd _ hn⟩
  rw [hquiet]
  exact ⟨{}, start, rfl⟩

end

/-- With the right answer the bolt is opened, and the hall is entered. -/
theorem cell_transits :
    let setup := Setup.cell 1
    let g := cellGame 1
    let turn := (g.move setup (.solve (.whole 7) none)).1
    let after := (g.move setup (.solve (.whole 7) none)).2
    g.activePuzzle? setup = some .bolt ∧ Puzzle.bolt.IsOpen (g.state.progress "bolt") ∧
      after.state.currentNode = "hall" ∧
      ∃ given score o, given.correct = true ∧ Transits setup g .bolt (.whole 7) none given score o turn after := by
  intro setup g turn after
  have hq : g.activePuzzle? setup = some .bolt := cellGame_activePuzzle? (by decide +kernel)
  have hopen : Puzzle.bolt.IsOpen (g.state.progress "bolt") := ⟨by decide +kernel, by decide +kernel⟩
  have hnode : after.state.currentNode = "hall" := by decide +kernel
  have hright : (g.scorer setup .bolt (.whole 7)).1.toOption.any (·.correct) = true := by decide +kernel
  refine ⟨hq, hopen, hnode, ?_⟩
  rcases hscore : g.scorer setup .bolt (.whole 7) with ⟨message | given, lines⟩
  · rw [hscore] at hright
    cases hright
  · rw [hscore] at hright
    exact ⟨given, _, _, hright, solve_transits none hq hopen hscore rfl (Setup.cell_attemptEnds _ _ _)⟩

/-- Where the weight of the wheel is a whole number that no floating number can hold, the right answer to the bolt
is not answered, although the scorer gives it a score and no effect fails. -/
theorem cell_attempt_raises :
    let setup := Setup.cell (10 ^ 400)
    let g := cellGame (10 ^ 400)
    g.activePuzzle? setup = some .bolt ∧ Puzzle.bolt.IsOpen (g.state.progress "bolt") ∧
      (∃ given lines, g.scorer setup .bolt (.whole 7) = (.ok given, lines)) ∧
      (∀ start r score, AttemptEnds setup start (Puzzle.bolt.due? r score)) ∧
      (g.move setup (.solve (.whole 7) none)).1.reply = .error .amountTooLarge := by
  intro setup g
  have hq : g.activePuzzle? setup = some .bolt := cellGame_activePuzzle? (by decide +kernel)
  have hopen : Puzzle.bolt.IsOpen (g.state.progress "bolt") := ⟨by decide +kernel, by decide +kernel⟩
  have hscored : (g.scorer setup .bolt (.whole 7)).1.toOption.isSome = true := by decide +kernel
  have hfault : (g.move setup (.solve (.whole 7) none)).1.fault? = some .amountTooLarge := by decide +kernel
  refine ⟨hq, hopen, ?_, Setup.cell_attemptEnds, Turn.fault?_eq_some.1 hfault⟩
  rcases hscore : g.scorer setup .bolt (.whole 7) with ⟨message | given, lines⟩
  · rw [hscore] at hscored
    cases hscored
  · exact ⟨given, lines, rfl⟩

end StoryRules
