import StoryRules.Proofs.Engine.Entry
import StoryRules.Proofs.Engine.Invariant
import StoryRules.Proofs.Engine.Judge

/-!
# Progress is never lost

Moves only add to what was visited and to what the records of puzzles count, a move counts at most one
attempt and shows at most one hint, and of a puzzle that is solved nothing changes but the hints.  Entering
nodes, applying effects and taking choices leave the records alone; the record is written by an answer that
is scored while its puzzle is open, and by a hint that is shown.

    g.state.LeadsTo after.state ∧ (∀ m, after.state.StepsTo (after.move setup m).2.state) ∧ ...
      where after := (g.play setup moves).2                                       (play_progresses)
-/

namespace StoryRules

variable {α : Type}

/-! ## What becomes of records -/

/-- Nothing that a record counts is lost, and of a solved puzzle only the hints are counted on. -/
structure Progress.LeadsTo (r after : Progress α) : Prop where
  attempts : r.attempts ≤ after.attempts
  hintsUsed : r.hintsUsed ≤ after.hintsUsed
  solved : r.solved = true → after = { r with hintsUsed := after.hintsUsed }

theorem Progress.LeadsTo.refl (r : Progress α) : r.LeadsTo r :=
  ⟨Int.le_refl _, Int.le_refl _, fun _ => rfl⟩

theorem Progress.LeadsTo.trans {r mid after : Progress α} (h : r.LeadsTo mid)
    (h' : mid.LeadsTo after) : r.LeadsTo after := by
  refine ⟨Int.le_trans h.attempts h'.attempts, Int.le_trans h.hintsUsed h'.hintsUsed, fun hsolved => ?_⟩
  have hmid := h.solved hsolved
  have hafter := h'.solved (by rw [hmid]; exact hsolved)
  rw [hafter, hmid]

namespace State

/-- Nodes stay visited, and nothing that a record counts is lost. -/
structure LeadsTo (s after : State α) : Prop where
  visited : s.visited ⊆ after.visited
  records : ∀ id, (s.progress id).LeadsTo (after.progress id)

/-- What the records count goes up by at most one, and for at most one puzzle. -/
def RaisesOnce (count : Progress α → Int) (s after : State α) : Prop :=
  ∃ puzzle, count (after.progress puzzle) ≤ count (s.progress puzzle) + 1 ∧
    ∀ id, id ≠ puzzle → count (after.progress id) = count (s.progress id)

/-- What a single move may do: at most one attempt is counted, and at most one hint. -/
structure StepsTo (s after : State α) : Prop extends LeadsTo s after where
  attempted : RaisesOnce Progress.attempts s after
  hinted : RaisesOnce Progress.hintsUsed s after

/-- Nodes stay visited, and no record says anything else. -/
structure KeepsRecords (s after : State α) : Prop where
  visited : s.visited ⊆ after.visited
  records : ∀ id, after.progress id = s.progress id

variable {s mid after : State α}

theorem LeadsTo.refl (s : State α) : s.LeadsTo s := ⟨List.Subset.refl _, fun _ => .refl _⟩

theorem LeadsTo.trans (h : s.LeadsTo mid) (h' : mid.LeadsTo after) : s.LeadsTo after :=
  ⟨List.Subset.trans h.visited h'.visited, fun id => (h.records id).trans (h'.records id)⟩

theorem KeepsRecords.refl (s : State α) : s.KeepsRecords s := ⟨List.Subset.refl _, fun _ => rfl⟩

theorem KeepsRecords.openProgress (s : State α) (puzzle : String) :
    s.KeepsRecords (s.openProgress puzzle) := by
  refine ⟨?_, fun id => progress_openProgress s puzzle id⟩
  unfold State.openProgress
  split <;> exact List.Subset.refl _

/-- A step followed by one that leaves the records alone. -/
theorem StepsTo.keeping (h : s.StepsTo mid) (h' : mid.KeepsRecords after) : s.StepsTo after := by
  obtain ⟨⟨hvisited, hrecords⟩, hattempted, hhinted⟩ := h
  unfold RaisesOnce at hattempted hhinted
  simp only [← h'.records] at hrecords hattempted hhinted
  exact ⟨⟨List.Subset.trans hvisited h'.visited, hrecords⟩, hattempted, hhinted⟩

/-- A step that writes one record, after one that leaves the records alone. -/
theorem KeepsRecords.writing (h : s.KeepsRecords mid) {puzzle : String} {r : Progress α}
    (hr : (s.progress puzzle).LeadsTo r) (hattempts : r.attempts ≤ (s.progress puzzle).attempts + 1)
    (hhints : r.hintsUsed ≤ (s.progress puzzle).hintsUsed + 1) :
    s.StepsTo (mid.setProgress puzzle r) := by
  have hself := progress_setProgress_self mid puzzle r
  have hother : ∀ id, id ≠ puzzle → (mid.setProgress puzzle r).progress id = s.progress id :=
    fun id hid => (progress_setProgress_of_ne mid r (Ne.symm hid)).trans (h.records id)
  refine ⟨⟨h.visited, fun id => ?_⟩, ⟨puzzle, ?_, fun id hid => ?_⟩, ⟨puzzle, ?_, fun id hid => ?_⟩⟩
  · by_cases hid : id = puzzle
    · rw [hid, hself]
      exact hr
    · rw [hother id hid]
      exact .refl _
  · rwa [hself]
  · rw [hother id hid]
  · rwa [hself]
  · rw [hother id hid]

theorem KeepsRecords.steps (h : s.KeepsRecords after) : s.StepsTo after := by
  refine StepsTo.keeping ⟨.refl s, ?_, ?_⟩ h <;>
    exact ⟨"", Int.le_add_of_nonneg_right (by decide), fun _ _ => rfl⟩

end State

/-! ## Moves that leave the records alone -/

variable [Number α] {setup : Setup α} {g after : Game α}

theorem keepsRecords_upheld (setup : Setup α) (s : State α) :
    (Invariant.ofState s.KeepsRecords).Upheld setup := by
  refine Invariant.ofState_upheld (fun t n _ ht => ⟨?visited, ?records⟩) fun t e t' ht h => ?_
  case visited =>
    refine List.Subset.trans ht.visited ?_
    show t.visited ⊆ (t.visit n.id).visited
    unfold State.visit
    split
    · exact List.Subset.refl _
    · exact List.subset_append_left _ _
  case records =>
    intro id
    rw [← ht.records id]
    unfold State.progress
    rw [State.puzzles_visit]
  · obtain ⟨-, hvisited, hpuzzles⟩ := h.frame
    refine ⟨hvisited ▸ ht.visited, fun id => ?_⟩
    rw [← ht.records id]
    unfold State.progress
    rw [hpuzzles]

omit [Number α] in
/-- A step that keeps the records of whatever state it starts from keeps those of this one. -/
theorem Keeps.records {β : Type} {x : Play α β} {Q : β → Prop}
    (hx : Keeps (Invariant.ofState g.state.KeepsRecords).Holds x Q) :
    g.state.KeepsRecords (x.run g).2.state :=
  (hx g ⟨⟨.refl _, fun _ _ => trivial⟩, fun _ _ => trivial⟩).1.state

/-! ## Answers -/

theorem Game.judged_steps {q : Puzzle α} (hopen : q.IsOpen (g.state.progress q.id))
    (answer : Datum α) (timeMs : Option Int) (score : Score α) (lines : List LogLine) :
    g.state.StepsTo (g.judged q answer timeMs score lines).2.state := by
  -- an open puzzle is not solved, so its record may be written
  have write : ∀ r : Progress α, r.attempts = (g.state.progress q.id).attempts + 1 →
      r.hintsUsed = (g.state.progress q.id).hintsUsed →
      g.state.StepsTo (g.state.setProgress q.id r) := by
    intro r hattempts hhints
    refine (State.KeepsRecords.refl _).writing ⟨?_, Int.le_of_eq hhints.symm, fun hsolved => ?_⟩
      (Int.le_of_eq hattempts) (by omega)
    · omega
    · rw [hopen.1] at hsolved
      cases hsolved
  unfold Game.judged
  dsimp only
  split
  · exact write _ rfl rfl
  · split <;> exact write _ rfl rfl

theorem Play.judge_steps (setup : Setup α) (g : Game α) (answer : Datum α) (timeMs : Option Int) :
    g.state.StepsTo ((Play.judge setup answer timeMs).run g).2.state := by
  cases hq : g.activePuzzle? setup with
  | none =>
    rw [Play.judge_none hq]
    exact (State.KeepsRecords.refl _).steps
  | some q =>
    by_cases hopen : q.IsOpen (g.state.progress q.id)
    · rcases hscore : g.scorer setup q answer with ⟨_ | score, lines⟩
      · rw [Play.judge_failed hq hopen hscore]
        exact (State.KeepsRecords.openProgress _ _).steps
      · rw [Play.judge_scored hq hopen hscore]
        exact Game.judged_steps hopen answer timeMs score lines
    · rw [Play.judge_closed hq hopen]
      exact (State.KeepsRecords.openProgress _ _).steps

/-- What follows when an answer was judged leaves the records alone. -/
theorem Play.solve_keepsRecords (setup : Setup α) (g : Game α) (answer : Datum α) (timeMs : Option Int) :
    ((Play.judge setup answer timeMs).run g).2.state.KeepsRecords
      ((Play.solve setup answer timeMs).run g).2.state := by
  unfold Play.solve
  rw [Step.run_bind]
  rcases (Play.judge setup answer timeMs).run g with ⟨_ | j, judged⟩
  · exact .refl _
  · cases j with
    | dismissed a => exact .refl _
    | scored p score resolved =>
      exact ((keepsRecords_upheld setup judged.state).settle (p := p) trivial score resolved).records

theorem Play.solve_steps (answer : Datum α) (timeMs : Option Int) :
    g.state.StepsTo ((Play.solve setup answer timeMs).run g).2.state :=
  (Play.judge_steps setup g answer timeMs).keeping (Play.solve_keepsRecords setup g answer timeMs)

/-! ## Hints -/

omit [Number α] in
/-- Showing a hint counts it, if there is one to show. -/
theorem Play.showHint_steps {s : State α} (h : s.KeepsRecords g.state) (p : Puzzle α) (used : Int) :
    s.StepsTo ((Play.showHint p used).run g).2.state := by
  unfold Play.showHint
  split
  · exact h.steps
  · refine h.writing (r := { g.state.progress p.id with
      hintsUsed := (g.state.progress p.id).hintsUsed + 1 }) ?_ ?_ ?_
    · rw [h.records p.id]
      exact ⟨Int.le_refl _, by dsimp only; omega, fun _ => rfl⟩
    · rw [h.records p.id]
      exact Int.le_add_of_nonneg_right (by decide)
    · exact Int.le_of_eq (congrArg (fun r => r.hintsUsed + 1) (h.records p.id))

/-- Paying for a hint leaves the records alone. -/
theorem Play.payHint_keepsRecords (setup : Setup α) {s : State α} (h : s.KeepsRecords g.state)
    (p : Puzzle α) :
    s.KeepsRecords ((Play.payHint setup p).run g).2.state :=
  ((keepsRecords_upheld setup s).payHint (p := p) trivial g
    ⟨⟨h, fun _ _ => trivial⟩, fun _ _ => trivial⟩).1.state

theorem Play.hint_steps : g.state.StepsTo ((Play.hint setup).run g).2.state := by
  unfold Play.hint
  rw [Step.run_bind, Step.run_get]
  dsimp only
  split
  · exact (State.KeepsRecords.refl _).steps
  · next p hp =>
    split
    · exact (State.KeepsRecords.refl _).steps
    · rw [Step.run_bind, openProgress_run]
      dsimp only
      have hopened := State.KeepsRecords.openProgress g.state p.id
      split
      · exact hopened.steps
      · have hpaid := Play.payHint_keepsRecords setup
          (g := { g with state := g.state.openProgress p.id }) hopened p
        rw [Step.run_bind]
        rcases hpay : (Play.payHint setup p).run { g with state := g.state.openProgress p.id } with
          ⟨_ | paid, payed⟩
        · rw [hpay] at hpaid
          exact hpaid.steps
        · rw [hpay] at hpaid
          cases paid with
          | false => exact hpaid.steps
          | true =>
            have hshown := Play.showHint_steps hpaid p (g.state.progress p.id).hintsUsed
            dsimp only
            rwa [if_pos rfl, Step.run_map_snd]

/-! ## Moves -/

/-- Only answers and hints are recorded. -/
theorem Game.move_keepsRecords (g : Game α) {m : Move α} (hsolve : ∀ answer timeMs, m ≠ .solve answer timeMs)
    (hhint : m ≠ .hint) : g.state.KeepsRecords (g.move setup m).2.state := by
  let silent : Game α := { g with notes := [] }
  have hup := keepsRecords_upheld setup silent.state
  show silent.state.KeepsRecords ((m.step setup).run silent).2.state
  cases m with
  | start =>
    unfold Move.step
    rw [Step.run_map_snd]
    exact Keeps.records hup.start
  | look =>
    unfold Move.step
    rw [Step.run_map_snd]
    exact Keeps.records hup.choices
  | choose index =>
    unfold Move.step
    rw [Step.run_map_snd]
    exact Keeps.records (hup.choose index)
  | solve answer timeMs => exact absurd rfl (hsolve answer timeMs)
  | hint => exact absurd rfl hhint

theorem Game.move_steps (g : Game α) (m : Move α) : g.state.StepsTo (g.move setup m).2.state := by
  cases m with
  | start | look | choose _ => exact (g.move_keepsRecords (by rintro _ _ ⟨⟩) (by rintro ⟨⟩)).steps
  | solve answer timeMs =>
    show g.state.StepsTo (((Move.solve answer timeMs).step setup).run { g with notes := [] }).2.state
    unfold Move.step
    rw [Step.run_map_snd]
    exact Play.solve_steps (g := { g with notes := [] }) answer timeMs
  | hint =>
    show g.state.StepsTo ((Move.hint.step setup).run { g with notes := [] }).2.state
    unfold Move.step
    rw [Step.run_map_snd]
    exact Play.hint_steps (g := { g with notes := [] })

/-! ## Where the game stands -/

/-- The game stands at a node that was visited. -/
def Game.AtVisited (g : Game α) : Prop := g.state.currentNode ∈ g.state.visited

theorem Play.Enters.atVisited {left : Nat} {n last : Node α} {chain : List (Node α)}
    (h : Enters setup left g n chain last after) : after.AtVisited := by
  induction h with
  | @stay _ g mid after n target lines hentry _ harrive =>
    obtain ⟨-, hnode, hvisited, -, -⟩ := entryTarget_eq_ok hentry
    unfold Game.AtVisited
    rw [(arrive_eq_ok harrive).state]
    show mid.state.currentNode ∈ mid.state.visited
    rw [hnode, hvisited]
    exact (State.mem_visited_visit _).2 (.inl rfl)
  | redirect _ _ _ ih => exact ih

theorem Play.start_atVisited (h : (Play.start setup).run g = (.ok true, after)) : after.AtVisited := by
  have henter : (Play.enterNode setup g.state.currentNode).run g = (.ok true, after) := h
  unfold Play.enterNode at henter
  cases hn : setup.story.node? g.state.currentNode with
  | none =>
    rw [Play.enter_missing _ hn] at henter
    cases henter
  | some n =>
    obtain ⟨-, chain, last, henters⟩ := Play.Enters.of_run hn henter
    exact henters.atVisited

theorem atVisited_upheld :
    (Invariant.ofState fun s : State α => s.currentNode ∈ s.visited).Upheld setup := by
  refine Invariant.ofState_upheld (fun s n _ _ => (State.mem_visited_visit _).2 (.inl rfl)) fun s e s' hs h => ?_
  obtain ⟨hnode, hvisited, -⟩ := h.frame
  rwa [hnode, hvisited]

theorem Game.AtVisited.play (hg : g.AtVisited) (moves : List (Move α)) :
    (g.play setup moves).2.AtVisited :=
  (atVisited_upheld.play (fun _ _ _ hs => hs) moves g ⟨hg, fun _ _ => trivial⟩).1.state

theorem Game.move_atVisited {m : Move α} (h : (g.move setup m).1.reply = .ok (.started true)) :
    (g.move setup m).2.AtVisited := by
  rcases hrun : (m.step setup).run { g with notes := [] } with ⟨result, after⟩
  have hreply : result = .ok (.started true) := by
    rw [← h]
    exact (congrArg Prod.fst hrun).symm
  have hafter : (g.move setup m).2.state = after.state :=
    congrArg (fun run : Except Fault (Reply α) × Game α => run.2.state) hrun
  unfold AtVisited
  rw [hafter]
  subst hreply
  cases m with
  | start =>
    obtain ⟨found, hstart, hfound⟩ := Step.run_map_eq_ok.1 hrun
    cases hfound
    exact Play.start_atVisited hstart
  | look => obtain ⟨_, -, ⟨⟩⟩ := Step.run_map_eq_ok.1 hrun
  | choose index => obtain ⟨_, -, ⟨⟩⟩ := Step.run_map_eq_ok.1 hrun
  | solve answer timeMs => obtain ⟨_, -, ⟨⟩⟩ := Step.run_map_eq_ok.1 hrun
  | hint => obtain ⟨_, -, ⟨⟩⟩ := Step.run_map_eq_ok.1 hrun

/-! ## Runs -/

theorem Game.play_leads (moves : List (Move α)) :
    ∀ g : Game α, g.state.LeadsTo (g.play setup moves).2.state := by
  induction moves with
  | nil => exact fun g => .refl _
  | cons m rest ih => exact fun g => (g.move_steps m).toLeadsTo.trans (ih _)

theorem Game.play_atVisited (moves : List (Move α)) : ∀ g : Game α,
    (∃ turn ∈ (g.play setup moves).1, turn.reply = .ok (.started true)) →
    (g.play setup moves).2.AtVisited := by
  induction moves with
  | nil => rintro g ⟨turn, ⟨⟩, -⟩
  | cons m rest ih =>
    rintro g ⟨turn, hturn, hstarted⟩
    rcases List.mem_cons.1 hturn with rfl | hturn
    · exact (Game.move_atVisited hstarted).play rest
    · exact ih _ ⟨turn, hturn, hstarted⟩

/-- From whatever state a game goes on, nothing that its run has reached is lost, each move counts at most
one attempt and at most one hint, and once the game was started it stands at a node that was visited. -/
theorem play_progresses (setup : Setup α) (g : Game α) (moves : List (Move α)) :
    let after := (g.play setup moves).2
    g.state.LeadsTo after.state ∧ (∀ m, after.state.StepsTo (after.move setup m).2.state) ∧
      ((∃ turn ∈ (g.play setup moves).1, turn.reply = .ok (.started true)) → after.AtVisited) :=
  ⟨g.play_leads moves, fun m => Game.move_steps _ m, g.play_atVisited moves⟩

end StoryRules
