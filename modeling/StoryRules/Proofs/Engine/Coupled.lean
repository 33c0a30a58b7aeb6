import StoryRules.Engine.Moves
import StoryRules.Proofs.Engine.Choices
import StoryRules.Proofs.Engine.Entry
import StoryRules.Proofs.State.Timeless

/-!
# Two games at once

A relation between games couples them if it relates only games whose states are the same but for times, and
bears with what the steps of play are made of.  Then every move that does not look at the puzzle in play is
answered alike in games that it relates, and leaves games that it relates; answers and hints do so where the
puzzles in play are the same.

    Couples setup R → (m.usesPuzzle = true → ∀ a b, R a b → a.activePuzzle? setup = b.activePuzzle? setup) →
      Agrees R (m.step setup) (m.step setup)                                          (Couples.move)
-/

namespace StoryRules

variable {α : Type}

/-- The game where a puzzle is put in play. -/
def Game.playing (g : Game α) (q : Puzzle α) : Game α := { g with active := some q }

/-- The game where a record says that its puzzle was solved right now. -/
def Game.timed (g : Game α) (puzzle : String) : Game α :=
  let (now, clock) := g.clock.next
  { g with
    state := g.state.setProgress puzzle { g.state.progress puzzle with solvedAt := some now }
    clock }

/-- A change of the state that has nothing to do with times, or with where the game stands. -/
structure State.Plain (f : State α → State α) : Prop where
  timeless : ∀ s, (f s).timeless = f s.timeless
  currentNode : ∀ s, (f s).currentNode = s.currentNode

theorem State.Plain.openProgress (puzzle : String) :
    State.Plain fun s : State α => s.openProgress puzzle :=
  ⟨fun s => s.timeless_openProgress puzzle, fun s => s.currentNode_openProgress puzzle⟩

theorem State.Plain.setProgress {f : Progress α → Progress α}
    (hf : ∀ r, (f r).timeless = f r.timeless) (puzzle : String) :
    State.Plain fun s : State α => s.setProgress puzzle (f (s.progress puzzle)) := by
  refine ⟨fun s => ?_, fun _ => rfl⟩
  rw [timeless_setProgress, hf, progress_timeless]

variable [Number α]

/-- What a relation between games has to grant. -/
structure Couples (setup : Setup α) (R : Game α → Game α → Prop) : Prop where
  state : ∀ {a b}, R a b → a.state.timeless = b.state.timeless
  noted : ∀ {a b} notes, R a b →
    R { a with notes := a.notes ++ notes } { b with notes := b.notes ++ notes }
  told : ∀ {a b}, R a b → R (a.told (.stateChanged a.state)) (b.told (.stateChanged b.state))
  draws : ∀ {a b}, R a b → a.draws = b.draws
  scored : ∀ {a b}, R a b → a.scored = b.scored
  drawn : ∀ {a b} draws, R a b → R { a with draws } { b with draws }
  counted : ∀ {a b} scored, R a b → R { a with scored } { b with scored }
  moved : ∀ {a b} n, R a b → R (a.movedTo n) (b.movedTo n)
  raised : ∀ {a b} q, R a b → R (a.playing q) (b.playing q)
  changed : ∀ {a b f}, State.Plain f → R a b →
    R { a with state := f a.state } { b with state := f b.state }
  timed : ∀ {a b} puzzle, R a b → R (a.timed puzzle) (b.timed puzzle)
  applied : ∀ effects, Agrees R (Play.applyEffects setup effects) (Play.applyEffects setup effects)

namespace Couples

variable {setup : Setup α} {R : Game α → Game α → Prop} (couples : Couples setup R)

/-! ## What is seen alike -/

section

variable {s t : State α} (h : s.timeless = t.timeless)

include h

omit [Number α] in
theorem sees_currentNode : s.currentNode = t.currentNode :=
  show s.timeless.currentNode = t.timeless.currentNode by rw [h]

omit [Number α] in
theorem sees_progress (id : String) : (s.progress id).timeless = (t.progress id).timeless := by
  rw [← State.progress_timeless, ← State.progress_timeless, h]

theorem sees_currency (id : String) : s.currency id = t.currency id :=
  show s.timeless.currency id = t.timeless.currency id by rw [h]

theorem sees_availability (n : Node α) : n.availability s = n.availability t := by
  have hblind : ∀ s : State α, n.availability s.timeless = n.availability s := by
    intro s
    funext index c
    refine Node.availability_congr rfl ?_ fun condition _ => condition.test_timeless s
    unfold Node.isGated
    split
    · rw [State.isSolved_timeless]
    · rfl
  rw [← hblind s, ← hblind t, h]

theorem sees_availabilities (n : Node α) : n.availabilities s = n.availabilities t :=
  Node.availabilities_congr fun index c _ => by rw [sees_availability h]

end

section

variable {r r' : Progress α} (h : r.timeless = r'.timeless)

include h

omit [Number α] in
theorem sees_solved : r.solved = r'.solved :=
  show r.timeless.solved = r'.timeless.solved by rw [h]

omit [Number α] in
theorem sees_attempts : r.attempts = r'.attempts :=
  show r.timeless.attempts = r'.timeless.attempts by rw [h]

omit [Number α] in
theorem sees_hintsUsed : r.hintsUsed = r'.hintsUsed :=
  show r.timeless.hintsUsed = r'.timeless.hintsUsed by rw [h]

end

include couples

/-! ## Notes and changes -/

theorem note (n : Note α) : Agrees R (Play.note n) (Play.note n) :=
  Agrees.update fun _ _ h => couples.noted [n] h

theorem log (line : LogLine) : Agrees R (Play.log (α := α) line) (Play.log line) := couples.note _

theorem emit (e : Event α) : Agrees R (Play.emit e) (Play.emit e) := couples.note _

theorem logAll (lines : List LogLine) : Agrees R (Play.logAll (α := α) lines) (Play.logAll lines) :=
  Agrees.update fun _ _ h => couples.noted _ h

theorem emitState : Agrees R (Play.emitState (α := α)) Play.emitState :=
  fun _ _ h => ⟨rfl, couples.told h⟩

theorem change {f : State α → State α} (hf : State.Plain f) : Agrees R (Play.change f) (Play.change f) :=
  Agrees.update fun _ _ h => couples.changed hf h

/-- Steps that look at the state may go by what it says besides times. -/
theorem state_bind {β : Type} {f g : State α → Play α β}
    (h : ∀ s t, s.timeless = t.timeless → Agrees R (f s) (g t)) :
    Agrees R (Play.state >>= f) (Play.state >>= g) :=
  fun a b hR => h a.state b.state (couples.state hR) a b hR

theorem draw (weights : List α) : Agrees R (Play.draw weights) (Play.draw weights) := by
  unfold Play.draw
  refine Agrees.get_bind fun a b h => ?_
  rw [couples.draws h]
  exact Agrees.bind (Agrees.set (couples.drawn _ h)) fun _ => Agrees.lift _

theorem applyAny (effects : List (Effect α)) :
    Agrees R (Play.applyAny setup effects) (Play.applyAny setup effects) := by
  unfold Play.applyAny
  split
  · exact Agrees.pure none
  · exact (couples.applied effects).map

/-! ## Entering nodes -/

theorem drawVariant (p : Puzzle α) : Agrees R (Play.drawVariant p) (Play.drawVariant p) := by
  unfold Play.drawVariant
  split
  · exact Agrees.pure p
  · refine Agrees.bind (couples.draw _) fun drawn => ?_
    cases drawn with
    | none => exact Agrees.pure p
    | some i =>
      dsimp only
      split
      · exact Agrees.pure p
      · split
        · exact Agrees.bind (couples.log _) fun _ => Agrees.pure p
        · next q hq =>
          split
          · exact Agrees.pure q
          · exact Agrees.bind (couples.log _) fun _ => Agrees.pure _

theorem bringUp (p : Option (Puzzle α)) : Agrees R (Play.bringUp p) (Play.bringUp p) := by
  cases p with
  | none => exact Agrees.pure ()
  | some p =>
    refine Agrees.bind (couples.drawVariant p) fun q => ?_
    exact Agrees.bind (Agrees.update fun _ _ h => couples.raised q h) fun _ => couples.emit _

theorem arrive (n : Node α) : Agrees R (Play.arrive n) (Play.arrive n) := by
  have hpuzzle : Agrees R (Play.bringUp n.puzzle) (Play.bringUp n.puzzle) := couples.bringUp _
  unfold Play.arrive
  refine Agrees.bind (couples.log _) fun _ => ?_
  refine Agrees.bind (couples.emit _) fun _ => ?_
  refine Agrees.bind couples.emitState fun _ => ?_
  by_cases hend : n.isEnding = true
  · rw [if_pos hend]
    exact Agrees.bind (couples.emit _) fun _ => hpuzzle
  · rw [if_neg hend]
    exact hpuzzle

theorem entryTarget (n : Node α) :
    Agrees R (Play.entryTarget setup n) (Play.entryTarget setup n) := by
  unfold Play.entryTarget
  split
  · exact Agrees.pure none
  · exact Agrees.bind (couples.applied _) fun report => Agrees.pure _

theorem enter (left : Nat) :
    ∀ id, Agrees R (Play.enter setup left id) (Play.enter setup left id) := by
  induction left using Nat.strongRecOn with
  | ind left ih =>
    intro id
    unfold Play.enter
    split
    · exact Agrees.bind (couples.log _) fun _ => Agrees.pure false
    · next n hn =>
      have hstay : Agrees R (do Play.arrive n; return true) (do Play.arrive n; return true) :=
        Agrees.bind (couples.arrive n) fun _ => Agrees.pure true
      refine Agrees.bind (Agrees.update fun _ _ h => couples.moved n h) fun _ => ?_
      refine Agrees.bind (couples.entryTarget n) fun target => ?_
      cases target with
      | none => exact hstay
      | some target =>
        dsimp only
        split
        · exact Agrees.bind (couples.log _) fun _ => hstay
        · cases left with
          | zero => exact Agrees.bind (couples.log _) fun _ => hstay
          | succ left =>
            exact Agrees.bind (couples.log _) fun _ => ih left (Nat.lt_succ_self left) target

theorem enterNode (id : String) : Agrees R (Play.enterNode setup id) (Play.enterNode setup id) :=
  couples.enter _ id

theorem start : Agrees R (Play.start setup) (Play.start setup) := by
  unfold Play.start
  refine couples.state_bind fun s t h => ?_
  rw [sees_currentNode h]
  exact couples.enterNode _

/-! ## Choices -/

theorem choices : Agrees R (Play.choices setup) (Play.choices setup) := by
  unfold Play.choices
  refine Agrees.get_bind fun a b h => ?_
  have hstate := couples.state h
  unfold Game.currentNode?
  rw [sees_currentNode hstate]
  split
  · exact Agrees.pure []
  · rw [sees_availabilities hstate]
    exact Agrees.bind (couples.logAll _) fun _ => Agrees.pure _

theorem choiceTarget (n : Node α) (index : Nat) (c : Choice α) (report : Option EffectReport) :
    Agrees R (Play.choiceTarget setup n index c report) (Play.choiceTarget setup n index c report) := by
  unfold Play.choiceTarget
  split
  · exact Agrees.pure c.next
  · split
    · exact Agrees.pure _
    · exact Agrees.bind (couples.log _) fun _ => Agrees.pure c.next

theorem takeChoice (n : Node α) (index : Nat) (c : Choice α) :
    Agrees R (Play.takeChoice setup n index c) (Play.takeChoice setup n index c) := by
  unfold Play.takeChoice
  refine Agrees.bind (couples.emit _) fun _ => ?_
  refine Agrees.bind (couples.applyAny _) fun report => ?_
  refine Agrees.bind (couples.choiceTarget n index c report) fun target => ?_
  refine Agrees.bind (couples.enterNode target) fun entered => ?_
  refine couples.state_bind fun s t h => ?_
  rw [sees_currentNode h]
  cases entered <;> exact Agrees.pure _

theorem choose (index : Int) : Agrees R (Play.choose setup index) (Play.choose setup index) := by
  unfold Play.choose
  refine Agrees.get_bind fun a b h => ?_
  unfold Game.currentNode?
  rw [sees_currentNode (couples.state h)]
  split
  · exact Agrees.pure _
  · next n hn =>
    split
    · refine Agrees.bind (Agrees.lift _) fun position => ?_
      exact Agrees.bind (couples.log _) fun _ => Agrees.pure _
    · next c hc =>
      refine Agrees.bind couples.choices fun _ => ?_
      refine couples.state_bind fun s t h => ?_
      rw [sees_availability h]
      dsimp only
      split
      · exact couples.takeChoice n index.toNat c
      · exact Agrees.bind (couples.log _) fun _ => Agrees.pure _

/-! ## Progress -/

theorem setProgress (puzzle : String) {f : Progress α → Progress α}
    (hf : ∀ r, (f r).timeless = f r.timeless) :
    Agrees R (Play.setProgress puzzle f) (Play.setProgress puzzle f) :=
  couples.change (.setProgress hf puzzle)

/-- Steps that look at a record may go by what it says besides the time. -/
theorem openProgress_bind {β : Type} (puzzle : String) {f g : Progress α → Play α β}
    (h : ∀ r r', r.timeless = r'.timeless → Agrees R (f r) (g r')) :
    Agrees R (Play.openProgress puzzle >>= f) (Play.openProgress puzzle >>= g) := by
  intro a b hR
  rw [Step.run_bind, Step.run_bind]
  have hopened := couples.changed (.openProgress puzzle) hR
  exact h _ _ (sees_progress (couples.state hopened) puzzle) _ _ hopened

theorem record (p : Puzzle α) (answer : Datum α) (timeMs : Option Int) (score : Score α) :
    Agrees R (Play.record p answer timeMs score) (Play.record p answer timeMs score) := by
  unfold Play.record
  refine Agrees.bind (couples.setProgress _ fun _ => rfl) fun _ => ?_
  exact Agrees.bind (Agrees.lift _) fun plain => couples.setProgress _ fun _ => rfl

theorem resolve (p : Puzzle α) (score : Score α) :
    Agrees R (Play.resolve p score) (Play.resolve p score) := by
  unfold Play.resolve
  split
  · refine Agrees.bind (couples.setProgress _ fun _ => rfl) fun _ => ?_
    exact fun a b h => ⟨rfl, couples.timed p.id h⟩
  · refine couples.state_bind fun s t h => ?_
    dsimp only
    rw [sees_attempts (sees_progress h p.id)]
    exact Agrees.pure _

theorem score (p : Puzzle α) (answer : Datum α) :
    Agrees R (Play.score setup p answer) (Play.score setup p answer) := by
  unfold Play.score
  refine Agrees.get_bind fun a b h => ?_
  unfold Game.scorer
  rw [couples.scored h]
  refine Agrees.bind (Agrees.set (couples.counted _ h)) fun _ => ?_
  exact Agrees.bind (couples.logAll _) fun _ => Agrees.pure _

theorem assess (p : Puzzle α) {r r' : Progress α} (hr : r.timeless = r'.timeless) (answer : Datum α)
    (timeMs : Option Int) :
    Agrees R (Play.assess setup p r answer timeMs) (Play.assess setup p r' answer timeMs) := by
  unfold Play.assess
  rw [sees_solved hr, sees_attempts hr]
  split
  · refine couples.state_bind fun s t h => ?_
    rw [sees_currentNode h]
    exact Agrees.pure _
  · split
    · exact Agrees.pure _
    · refine Agrees.bind (couples.score p answer) fun result => ?_
      split
      · exact Agrees.bind (couples.log _) fun _ => Agrees.pure _
      · refine Agrees.bind (couples.record _ _ _ _) fun _ => ?_
        exact Agrees.bind (couples.resolve _ _) fun resolved => Agrees.pure _

theorem settle (p : Puzzle α) (score : Score α) (resolved : Option Bool) :
    Agrees R (Play.settle setup p score resolved) (Play.settle setup p score resolved) := by
  have houtcome : ∀ o, Agrees R (Play.applyOutcome setup o) (Play.applyOutcome setup o) := by
    intro o
    cases o with
    | none => exact Agrees.pure none
    | some o => exact couples.applyAny o.effects
  have henter : ∀ target, Agrees R (Play.enterAny setup target) (Play.enterAny setup target) := by
    intro target
    cases target with
    | none => exact Agrees.pure ()
    | some id => exact Agrees.bind (couples.enterNode id) fun _ => Agrees.pure ()
  unfold Play.settle
  refine Agrees.bind (houtcome _) fun report => ?_
  refine Agrees.bind (couples.emit _) fun _ => ?_
  refine Agrees.bind couples.emitState fun _ => ?_
  refine Agrees.bind (henter _) fun _ => ?_
  refine couples.state_bind fun s t h => ?_
  have hrecord := sees_progress h p.id
  dsimp only
  rw [sees_currentNode h, sees_attempts hrecord, sees_solved hrecord]
  exact Agrees.pure _

/-! ## Hints -/

theorem payHint (p : Puzzle α) : Agrees R (Play.payHint setup p) (Play.payHint setup p) := by
  unfold Play.payHint
  split
  · exact Agrees.pure true
  · refine couples.state_bind fun s t h => ?_
    rw [sees_currency h]
    split
    · exact Agrees.bind (couples.log _) fun _ => Agrees.pure false
    · exact Agrees.bind (couples.applied _) fun _ => Agrees.pure true

theorem showHint (p : Puzzle α) (used : Int) :
    Agrees R (Play.showHint p used) (Play.showHint p used) := by
  unfold Play.showHint
  split
  · exact Agrees.throw _
  · refine Agrees.bind (couples.setProgress _ fun _ => rfl) fun _ => ?_
    exact Agrees.bind couples.emitState fun _ => Agrees.pure _

/-! ## Answers and hints -/

section

variable (same : ∀ a b, R a b → a.activePuzzle? setup = b.activePuzzle? setup)

include same

theorem solve (answer : Datum α) (timeMs : Option Int) :
    Agrees R (Play.solve setup answer timeMs) (Play.solve setup answer timeMs) := by
  have hjudge : Agrees R (Play.judge setup answer timeMs) (Play.judge setup answer timeMs) := by
    unfold Play.judge
    refine Agrees.get_bind fun a b h => ?_
    rw [same a b h]
    split
    · exact Agrees.bind (couples.log _) fun _ => Agrees.pure _
    · next p hp =>
      exact couples.openProgress_bind p.id fun r r' hr => couples.assess p hr answer timeMs
  unfold Play.solve
  refine Agrees.bind hjudge fun j => ?_
  cases j with
  | dismissed a => exact Agrees.pure a
  | scored p score resolved => exact couples.settle p score resolved

theorem hint : Agrees R (Play.hint setup) (Play.hint setup) := by
  unfold Play.hint
  refine Agrees.get_bind fun a b h => ?_
  rw [same a b h]
  split
  · exact Agrees.pure none
  · next p hp =>
    split
    · exact Agrees.pure none
    · refine couples.openProgress_bind p.id fun r r' hr => ?_
      rw [sees_hintsUsed hr, sees_attempts hr]
      split
      · exact Agrees.pure none
      · refine Agrees.bind (couples.payHint p) fun paid => ?_
        split
        · exact (couples.showHint p _).map
        · exact Agrees.pure none

end

end Couples

/-! ## Moves -/

omit [Number α] in
/-- Whether a move looks at the puzzle in play. -/
def Move.usesPuzzle : Move α → Bool
  | .solve .. | .hint => true
  | _ => false

/-- What a move is answered with, and what was noted during it. -/
theorem Game.turn_eq (g : Game α) (m : Move α) : (g.move setup m).1 =
    ⟨((m.step setup).run { g with notes := [] }).1,
      ((m.step setup).run { g with notes := [] }).2.notes⟩ := rfl

/-- Games that are coupled answer a move alike and stay coupled, if the puzzle in play is the same for
moves that look at it. -/
theorem Couples.move {setup : Setup α} {R : Game α → Game α → Prop} (couples : Couples setup R)
    {m : Move α}
    (same : m.usesPuzzle = true → ∀ a b, R a b → a.activePuzzle? setup = b.activePuzzle? setup) :
    Agrees R (m.step setup) (m.step setup) := by
  cases m with
  | start => exact couples.start.map
  | look => exact couples.choices.map
  | choose index => exact (couples.choose index).map
  | solve answer timeMs => exact (couples.solve (same rfl) answer timeMs).map
  | hint => exact (couples.hint (same rfl)).map

end StoryRules
