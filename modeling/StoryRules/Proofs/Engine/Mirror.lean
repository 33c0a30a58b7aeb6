import StoryRules.Proofs.Engine.Protocol

/-!
# Mirrors

Whoever listens to a game and keeps the state that was told last has the state of the game after every
operation that returns.  All that such a copy can lack are records of puzzles that say nothing yet: they are
made where a puzzle is looked at, which is told of by nothing.

    setup.story.Valid language → (fresh : g = setup.newGame state draws clock) →
      g.returns setup operations = true →
        (g.state.follow (g.history setup operations)).Mirrors (g.operate setup operations).state
                                                                              (operate_mirrored)
-/

namespace StoryRules

variable {α : Type}

/-! ## Copies -/

namespace State

/-- A copy of the state after a note: the state that is told takes its place. -/
def observe (copy : State α) : Note α → State α
  | .event (.stateChanged s) => s
  | _ => copy

/-- A copy of the state after some notes. -/
def follow (copy : State α) (notes : List (Note α)) : State α := notes.foldl observe copy

/-- A copy has all of a state but records of puzzles that say nothing. -/
def Mirrors (copy live : State α) : Prop :=
  ∃ blank : List String, (∀ id ∈ blank, copy.puzzles.has id = false) ∧
    live = { copy with puzzles := copy.puzzles ++ blank.map fun id => (id, {}) }

variable {copy live after : State α}

theorem follow_append (copy : State α) (front back : List (Note α)) :
    copy.follow (front ++ back) = (copy.follow front).follow back :=
  List.foldl_append

/-- Only marks can change a copy. -/
theorem follow_marks (copy : State α) (notes : List (Note α)) :
    copy.follow (notes.filter Note.isMark) = copy.follow notes := by
  induction notes generalizing copy with
  | nil => rfl
  | cons note rest ih =>
    rw [List.filter_cons]
    split
    · exact ih _
    · next hquiet =>
      rw [ih]
      cases note with
      | log line => rfl
      | event e => exact absurd rfl hquiet

theorem Mirrors.refl (s : State α) : s.Mirrors s :=
  ⟨[], by simp, by rw [List.map_nil, List.append_nil]⟩

theorem Mirrors.openProgress (h : copy.Mirrors live) (id : String) :
    copy.Mirrors (live.openProgress id) := by
  unfold State.openProgress
  split
  · exact h
  · next hnew =>
    obtain ⟨blank, hblank, rfl⟩ := h
    rw [Bool.not_eq_true] at hnew
    refine ⟨blank ++ [id], fun key hkey => ?_, ?_⟩
    · rcases List.mem_append.1 hkey with hkey | hkey
      · exact hblank key hkey
      · cases List.mem_singleton.1 hkey
        have hnew : List.any (_ ++ _) _ = false := hnew
        rw [List.any_append, Bool.or_eq_false_iff] at hnew
        exact hnew.1
    · rw [Table.put_new hnew, List.map_append, List.append_assoc]
      rfl

theorem Mirrors.opened (h : copy.Mirrors live) (hafter : live.Opened after) : copy.Mirrors after := by
  rcases hafter with rfl | ⟨id, rfl⟩
  · exact h
  · exact h.openProgress id

end State

/-! ## Steps -/

/-- A copy that follows what is told in a game has the state of the game. -/
def Game.InSync (copy : State α) (g : Game α) : Prop := copy.follow g.marks = g.state

variable [Number α]

namespace Play

variable {setup : Setup α} {g after : Game α} {copy : State α}

omit [Number α] in
/-- What is told behind a state tells of no other one. -/
theorem follow_arrivalMarks (n : Node α) (s : State α) (active : Option (Puzzle α)) :
    copy.follow (arrivalMarks n s active) = s := by
  unfold arrivalMarks startedMarks
  cases n.isEnding <;> cases n.puzzle <;> cases active <;> rfl

theorem arrive_synced {n : Node α} (h : (arrive n).run g = (.ok (), after)) : after.InSync copy := by
  obtain ⟨hstate, -, hmarks⟩ := arrive_eq_ok h
  unfold Game.InSync
  rw [hmarks, State.follow_append, follow_arrivalMarks, hstate]

/-- Wherever the chain of an entry ends, its state is told. -/
theorem Enters.synced {left : Nat} {n last : Node α} {chain : List (Node α)}
    (h : Enters setup left g n chain last after) : after.InSync copy := by
  induction h with
  | stay _ _ harrive => exact arrive_synced harrive
  | redirect _ _ _ ih => exact ih

theorem enterNode_synced {id : String} (h : (enterNode setup id).run g = (.ok true, after)) :
    after.InSync copy := by
  unfold enterNode at h
  cases hn : setup.story.node? id with
  | none =>
    rw [enter_missing _ hn] at h
    cases h
  | some n =>
    obtain ⟨-, chain, last, henters⟩ := Enters.of_run hn h
    exact henters.synced

/-- Where there is no node to enter, nothing is changed. -/
theorem enterNode_missing {id : String} (h : (enterNode setup id).run g = (.ok false, after)) :
    after.state = g.state ∧ after.marks = g.marks := by
  unfold enterNode at h
  cases hn : setup.story.node? id with
  | none =>
    rw [enter_missing _ hn] at h
    cases h
    exact ⟨rfl, g.marks_logged_quiet _ (by simp [Note.isMark])⟩
  | some n => cases (Enters.of_run hn h).1

omit [Number α] in
theorem told_synced (g : Game α) : (g.told (.stateChanged g.state)).InSync copy := by
  unfold Game.InSync
  rw [Game.marks_told, State.follow_append]
  rfl

theorem enterAny_synced {target : Option String} (hsync : g.InSync copy)
    (h : (enterAny setup target).run g = (.ok (), after)) : after.InSync copy := by
  cases target with
  | none =>
    cases h
    exact hsync
  | some id =>
    obtain ⟨found, entered, henter, h⟩ := Step.run_bind_eq_ok.1 h
    cases h
    cases found with
    | true => exact enterNode_synced henter
    | false =>
      obtain ⟨hstate, hmarks⟩ := enterNode_missing henter
      unfold Game.InSync
      rw [hstate, hmarks]
      exact hsync

theorem settle_synced {p : Puzzle α} {score : Score α} {resolved : Option Bool} {a : Attempt α}
    (h : (settle setup p score resolved).run g = (.ok a, after)) : after.InSync copy := by
  obtain ⟨-, applied, target, -, henter⟩ := settle_eq_ok h
  exact enterAny_synced (told_synced (applied.told (.puzzleCompleted p score))) henter

omit [Number α] in
theorem showHint_synced {p : Puzzle α} {used : Int} {hint : String}
    (h : (showHint p used).run g = (.ok hint, after)) : after.InSync copy := by
  unfold Game.InSync
  rw [showHint_told h, State.follow_append]
  rfl

end Play

/-! ## Operations -/

/-- A copy mirrors a game: it does so by what the game has told it so far. -/
def Game.Mirrored (copy : State α) (g : Game α) : Prop := (copy.follow g.marks).Mirrors g.state

namespace Game.Mirrored

variable {setup : Setup α} {g after : Game α} {copy : State α}

omit [Number α] in
theorem of_sync (h : g.InSync copy) : g.Mirrored copy := by
  unfold Mirrored
  rw [show copy.follow g.marks = g.state from h]
  exact .refl _

omit [Number α] in
theorem opened (hg : g.Mirrored copy) (hstate : g.state.Opened after.state)
    (hmarks : after.marks = g.marks) : after.Mirrored copy := by
  unfold Mirrored
  rw [hmarks]
  exact State.Mirrors.opened hg hstate

variable (hg : g.Mirrored copy)

include hg

theorem start {found : Bool} (h : (Play.start setup).run g = (.ok found, after)) :
    after.Mirrored copy := by
  cases found with
  | true => exact .of_sync (Play.enterNode_synced (g := g) h)
  | false =>
    obtain ⟨hstate, hmarks⟩ := Play.enterNode_missing (g := g) h
    exact hg.opened (.inl hstate) hmarks

theorem choose {index : Int} {r : ChoiceResult}
    (hnext : ∀ n ∈ setup.story.nodes, ∀ c ∈ n.choices, (setup.story.node? c.next).isSome = true)
    (h : (Play.choose setup index).run g = (.ok r, after)) : after.Mirrored copy := by
  rcases Play.choose_eq_ok h with ⟨-, hstate, hmarks⟩ | ⟨n, hn, c, hc, i, looked, -, htake⟩
  · exact hg.opened (.inl hstate) hmarks
  · obtain ⟨hsuccess, -⟩ := Play.takeChoice_told (hnext n hn c hc) htake
    obtain ⟨target, aimed, henter, -⟩ := Play.takeChoice_eq_ok htake
    rw [hsuccess] at henter
    exact .of_sync (Play.enterNode_synced henter)

theorem solve {answer : Datum α} {timeMs : Option Int} {a : Attempt α}
    (h : (Play.solve setup answer timeMs).run g = (.ok a, after)) : after.Mirrored copy := by
  unfold Play.solve at h
  obtain ⟨j, judged, hjudge, h⟩ := Step.run_bind_eq_ok.1 h
  cases j with
  | dismissed d =>
    cases h
    obtain ⟨hmarks, hdismissed⟩ := Play.judge_told hjudge
    exact hg.opened (hdismissed a rfl).2 hmarks
  | scored p score resolved => exact .of_sync (Play.settle_synced h)

theorem hint {hint : Option String} (h : (Play.hint setup).run g = (.ok hint, after)) :
    after.Mirrored copy := by
  rcases Play.hint_eq_ok h with ⟨-, hmarks, hstate⟩ | ⟨p, used, shown, payed, -, -, -, hshow⟩
  · exact hg.opened hstate hmarks
  · exact .of_sync (Play.showHint_synced hshow)

theorem move {m : Move α} {reply : Reply α}
    (hnext : ∀ n ∈ setup.story.nodes, ∀ c ∈ n.choices, (setup.story.node? c.next).isSome = true)
    (h : (m.step setup).run g = (.ok reply, after)) : after.Mirrored copy := by
  cases m with
  | start =>
    obtain ⟨found, hrun, rfl⟩ := Step.run_map_eq_ok.1 h
    exact hg.start hrun
  | look =>
    obtain ⟨found, hrun, rfl⟩ := Step.run_map_eq_ok.1 h
    obtain ⟨hstate, hmarks⟩ := Play.choices_quiet hrun
    exact hg.opened (.inl hstate) hmarks
  | choose index =>
    obtain ⟨r, hrun, rfl⟩ := Step.run_map_eq_ok.1 h
    exact hg.choose hnext hrun
  | solve answer timeMs =>
    obtain ⟨a, hrun, rfl⟩ := Step.run_map_eq_ok.1 h
    exact hg.solve hrun
  | hint =>
    obtain ⟨shown, hrun, rfl⟩ := Step.run_map_eq_ok.1 h
    exact hg.hint hrun

/-- Operations that return leave a mirrored game mirrored. -/
theorem step {operation : Operation α} {answer : Answer α}
    (hnext : ∀ n ∈ setup.story.nodes, ∀ c ∈ n.choices, (setup.story.node? c.next).isSome = true)
    (h : (operation.step setup).run g = (.ok answer, after)) : after.Mirrored copy := by
  cases operation with
  | move m =>
    obtain ⟨reply, hrun, rfl⟩ := Step.run_map_eq_ok.1 h
    exact hg.move hnext hrun
  | timer name =>
    obtain ⟨running, hrun, rfl⟩ := Step.run_map_eq_ok.1 h
    cases hrun
    exact hg
  | load snapshot =>
    obtain ⟨result, hrun, rfl⟩ := Step.run_map_eq_ok.1 h
    cases snapshot with
    | ok s =>
      cases hrun
      exact .of_sync (Play.told_synced _)
    | error e =>
      cases hrun
      exact hg
  | reset =>
    obtain ⟨_, hrun, rfl⟩ := Step.run_map_eq_ok.1 h
    cases hrun
    exact .of_sync (Play.told_synced _)

end Game.Mirrored

/-! ## Runs -/

namespace Game

variable {setup : Setup α}

/-- Whether operations all return, one after the other. -/
def returns (setup : Setup α) (g : Game α) : List (Operation α) → Bool
  | [] => true
  | operation :: rest =>
    let (result, after, _) := g.run (operation.step setup)
    result.isOk && returns setup after rest

/-- All that is told of operations, one after the other. -/
def history (setup : Setup α) (g : Game α) : List (Operation α) → List (Note α)
  | [] => []
  | operation :: rest =>
    let (_, after, notes) := g.run (operation.step setup)
    notes ++ history setup after rest

theorem follow_history
    (hnext : ∀ n ∈ setup.story.nodes, ∀ c ∈ n.choices, (setup.story.node? c.next).isSome = true)
    (operations : List (Operation α)) : ∀ {g : Game α} {copy : State α}, copy.Mirrors g.state →
      g.returns setup operations = true →
      (copy.follow (g.history setup operations)).Mirrors (g.operate setup operations).state := by
  induction operations with
  | nil => exact fun h _ => h
  | cons operation rest ih =>
    intro g copy hcopy hreturns
    rcases hrun : (operation.step setup).run { g with notes := [] } with ⟨result, after⟩
    have hg : g.run (operation.step setup) = (result, { after with notes := [] }, after.notes) := by
      unfold run
      rw [hrun]
    unfold returns at hreturns
    unfold history
    rw [hg] at hreturns ⊢
    obtain ⟨hstep, hrest⟩ := Bool.and_eq_true_iff.1 hreturns
    have hoperate : g.operate setup (operation :: rest) =
        operate setup { after with notes := [] } rest :=
      congrArg (fun run : Except Fault (Answer α) × Game α × List (Note α) =>
        operate setup run.2.1 rest) hg
    rw [hoperate, State.follow_append]
    cases result with
    | error fault => cases hstep
    | ok answer =>
      have hafter : after.Mirrored copy := Mirrored.step (g := { g with notes := [] }) hcopy hnext hrun
      refine ih ?_ hrest
      rw [← State.follow_marks]
      exact hafter

end Game

/-- In a valid story, whatever is done as long as it returns, whoever starts with the state of a fresh game
and keeps the state told last has the state of the game, but perhaps for records of puzzles that say
nothing. -/
theorem operate_mirrored [FaithfulNumber α] {setup : Setup α} {language : PatternLanguage}
    (hvalid : setup.story.Valid language) (state : Option (State α)) (draws : Feed α)
    (clock : Feed Int) (operations : List (Operation α))
    (hreturns : (setup.newGame state draws clock).returns setup operations = true) :
    let g := setup.newGame state draws clock
    (g.state.follow (g.history setup operations)).Mirrors (g.operate setup operations).state := by
  have hsound := hvalid.sound
  exact Game.follow_history (fun n hn c hc => ((hsound.node n hn).choice c hc).next) operations
    (.refl _) hreturns

/-- Whoever listens follows the riddle to its end. -/
theorem riddle_mirrored :
    let g := Setup.riddle.newGame none (.always (.int 0)) (.always 0)
    let operations : List (Operation Amount) :=
      [.reset, .move .start, .move (.choose 0), .move (.solve (.list [.whole 1]) none), .timer "",
        .load (.error .notObject)]
    g.returns Setup.riddle operations = true ∧
    (g.state.follow (g.history Setup.riddle operations)).Mirrors
      (g.operate Setup.riddle operations).state := by
  intro g operations
  have hvalid : Setup.riddle.story.Valid Pattern.language := Story.riddle_valid
  have hreturns : g.returns Setup.riddle operations = true := by decide +kernel
  exact ⟨hreturns, operate_mirrored hvalid none (.always (.int 0)) (.always 0) operations hreturns⟩

end StoryRules
