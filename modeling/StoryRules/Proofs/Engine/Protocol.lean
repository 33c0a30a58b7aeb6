import StoryRules.Proofs.Engine.Choices
import StoryRules.Proofs.Engine.Judge
import StoryRules.Proofs.Engine.Operations
import StoryRules.Proofs.Engine.References
import StoryRules.Proofs.Engine.Words

/-!
# The protocol of events

What is told of an operation that returns is one of a few words, put together from what entering a node
tells and from single events.  Operations that are turned away, and those that only ask, tell of nothing.

    g.run (operation.step setup) = (.ok answer, after, notes) →
      answer.Conforms setup g after notes      (operate_conforms)
-/

namespace StoryRules

variable {α : Type}

/-! ## Words -/

/-- What is told of effects that are applied if there are any. -/
def effectsWord (report : Option EffectReport) : List EventKind :=
  if report.isSome then [.effectsApplied] else []

/-- The notes that tell it. -/
def effectsMarks (report : Option EffectReport) : List (Note α) :=
  report.toList.map fun r => .event (.effectsApplied r)

theorem effectsMarks_tell (report : Option EffectReport) :
    kinds (effectsMarks (α := α) report) = effectsWord report ∧
      enteredNodes (effectsMarks (α := α) report) = [] ∧
      redirects (effectsMarks (α := α) report) = [] := by
  cases report <;> exact ⟨rfl, rfl, rfl⟩

/-- What is told of an operation that takes one game to another, by what it is answered with. -/
def Answer.Conforms (setup : Setup α) (g after : Game α) (notes : List (Note α)) : Answer α → Prop
  | .moved (.started _) =>
    if (g.currentNode? setup).isSome then Entered setup g.state.currentNode after notes
    else kinds notes = []
  | .moved (.offered _) => kinds notes = []
  | .moved (.chosen r) =>
    if r.success then
      ∃ target word, kinds notes = .choiceSelected :: effectsWord r.report ++ word ∧
        Entry setup target after.state.currentNode notes word
    else kinds notes = []
  | .moved (.attempted a) =>
    if a.score.isSome then
      ∃ word, kinds notes = effectsWord a.report ++ [.puzzleCompleted, .stateChanged] ++ word ∧
        (word = [] ∨ ∃ target, Entry setup target after.state.currentNode notes word)
    else kinds notes = []
  | .moved (.hinted (some _)) =>
    ∃ p, g.activePuzzle? setup = some p ∧
      kinds notes = (if (p.dynamic.bind Dynamic.hintCost).isSome then [.effectsApplied] else []) ++
        [.stateChanged]
  | .moved (.hinted none) => kinds notes = []
  | .timed _ => kinds notes = []
  | .loaded (.ok _) => kinds notes = [.stateChanged]
  | .loaded (.error _) => kinds notes = []
  | .reset => kinds notes = [.stateChanged]

variable [Number α]

namespace Play

variable {setup : Setup α} {g after : Game α}

/-! ## Choices -/

theorem applyAny_marks {effects : List (Effect α)} {report : Option EffectReport}
    (h : (applyAny setup effects).run g = (.ok report, after)) :
    after.marks = g.marks ++ effectsMarks report := by
  unfold applyAny at h
  split at h
  · cases h
    rw [effectsMarks, Option.toList_none, List.map_nil, List.append_nil]
  · obtain ⟨r, hrun, rfl⟩ := Step.run_map_eq_ok.1 h
    exact (applyEffects_eq_ok hrun).marks

omit [Number α] in
/-- A choice leads to where it says or to a node that exists. -/
theorem choiceTarget_eq_ok {n : Node α} {index : Nat} {c : Choice α}
    {report : Option EffectReport} {target : String}
    (h : (choiceTarget setup n index c report).run g = (.ok target, after)) :
    after.marks = g.marks ∧ (target = c.next ∨ (setup.story.node? target).isSome = true) := by
  unfold choiceTarget at h
  split at h
  · cases h
    exact ⟨rfl, .inl rfl⟩
  · split at h
    · next hsome =>
      cases h
      exact ⟨rfl, .inr hsome⟩
    · cases h
      exact ⟨g.marks_logged_quiet [_] (by simp [Note.isMark]), .inl rfl⟩

/-- A choice that is taken is told of and its effects are applied; then the node it leads to is entered. -/
theorem takeChoice_eq_ok {n : Node α} {index : Nat} {c : Choice α} {r : ChoiceResult}
    (h : (takeChoice setup n index c).run g = (.ok r, after)) :
    ∃ target aimed, (enterNode setup target).run aimed = (.ok r.success, after) ∧
      (target = c.next ∨ (setup.story.node? target).isSome = true) ∧
      aimed.marks = g.marks ++ .event (.choiceSelected c index) :: effectsMarks r.report := by
  unfold takeChoice at h
  obtain ⟨_, _, hemit, h⟩ := Step.run_bind_eq_ok.1 h
  rw [emit_run] at hemit
  cases hemit
  obtain ⟨report, applied, happly, h⟩ := Step.run_bind_eq_ok.1 h
  obtain ⟨target, aimed, htarget, h⟩ := Step.run_bind_eq_ok.1 h
  obtain ⟨found, entered, henter, h⟩ := Step.run_bind_eq_ok.1 h
  obtain ⟨hmarks, haim⟩ := choiceTarget_eq_ok htarget
  have htold : aimed.marks = g.marks ++ .event (.choiceSelected c index) :: effectsMarks report := by
    rw [hmarks, applyAny_marks happly, Game.marks_told]
    simp
  cases found <;> cases h <;> exact ⟨target, aimed, henter, haim, htold⟩

theorem takeChoice_told {n : Node α} {index : Nat} {c : Choice α} {r : ChoiceResult}
    (hnext : (setup.story.node? c.next).isSome = true)
    (h : (takeChoice setup n index c).run g = (.ok r, after)) :
    r.success = true ∧ ∃ target marks, Entered setup target after marks ∧
      after.marks = g.marks ++ .event (.choiceSelected c index) :: effectsMarks r.report ++ marks := by
  obtain ⟨target, aimed, henter, haim, haimed⟩ := takeChoice_eq_ok h
  have hexists : (setup.story.node? target).isSome = true := by
    rcases haim with rfl | hsome
    · exact hnext
    · exact hsome
  obtain ⟨hfound, marks, hentered, htold⟩ := enterNode_told henter
  rw [hexists] at hfound
  rw [if_pos hfound] at htold
  exact ⟨hfound, target, marks, htold, by rw [hentered, haimed]⟩

omit [Number α] in
theorem logAll_quiet {lines : List LogLine}
    (h : ∀ line ∈ lines, (Note.log line : Note α).isMark = false)
    (hrun : (logAll lines).run g = (.ok (), after)) : after.marks = g.marks := by
  cases hrun
  exact g.marks_logged_quiet _ h

/-- Looking at the choices changes nothing and is told of by nothing. -/
theorem choices_quiet {found : List (Availability α)}
    (h : (choices setup).run g = (.ok found, after)) :
    after.state = g.state ∧ after.marks = g.marks := by
  unfold choices at h
  rw [Step.run_bind, Step.run_get] at h
  dsimp only at h
  split at h
  · cases h
    exact ⟨rfl, rfl⟩
  · obtain ⟨_, _, hlog, h⟩ := Step.run_bind_eq_ok.1 h
    cases h
    refine ⟨by cases hlog; rfl, logAll_quiet (fun line hline => ?_) hlog⟩
    obtain ⟨w, -, rfl⟩ := List.mem_map.1 hline
    rfl

/-- A choice is turned away, and nothing is changed, or it is one of the current node and is taken. -/
theorem choose_eq_ok {index : Int} {r : ChoiceResult}
    (h : (choose setup index).run g = (.ok r, after)) :
    (r.success = false ∧ after.state = g.state ∧ after.marks = g.marks) ∨
    ∃ n ∈ setup.story.nodes, ∃ c ∈ n.choices, ∃ i looked, looked.marks = g.marks ∧
      (takeChoice setup n i c).run looked = (.ok r, after) := by
  have refused : ∀ {line : LogLine} {reason : String}, (Note.log line : Note α).isMark = false →
      ∀ {g : Game α}, (do log line; return ChoiceResult.failure reason : Play α ChoiceResult).run g =
        (.ok r, after) → r.success = false ∧ after.state = g.state ∧ after.marks = g.marks := by
    intro line reason hline g h
    cases h
    exact ⟨rfl, rfl, g.marks_logged_quiet [line] (by simpa using hline)⟩
  unfold choose at h
  rw [Step.run_bind, Step.run_get] at h
  dsimp only at h
  split at h
  · cases h
    exact .inl ⟨rfl, rfl, rfl⟩
  · next n hn =>
    split at h
    · obtain ⟨position, _, hposition, h⟩ := Step.run_bind_eq_ok.1 h
      rw [Step.run_lift] at hposition
      obtain ⟨-, rfl⟩ := Prod.mk.inj hposition
      exact .inl (refused rfl h)
    · next c hc =>
      have hc := mem_of_choiceAt? hc
      obtain ⟨_, looked, hlook, h⟩ := Step.run_bind_eq_ok.1 h
      obtain ⟨hstate, hquiet⟩ := choices_quiet hlook
      rw [Step.run_bind, state_run] at h
      dsimp only at h
      split at h
      · exact .inr ⟨n, Story.mem_nodes_of_node? hn, c, hc, _, looked, hquiet, h⟩
      · obtain ⟨hfail, hsame, hmarks⟩ := refused rfl h
        exact .inl ⟨hfail, hsame.trans hstate, hmarks.trans hquiet⟩

theorem choose_told {index : Int} {r : ChoiceResult}
    (hnext : ∀ n ∈ setup.story.nodes, ∀ c ∈ n.choices, (setup.story.node? c.next).isSome = true)
    (h : (choose setup index).run g = (.ok r, after)) :
    if r.success then
      ∃ c i target marks, Entered setup target after marks ∧
        after.marks = g.marks ++ .event (.choiceSelected c i) :: effectsMarks r.report ++ marks
    else after.marks = g.marks := by
  rcases choose_eq_ok h with ⟨hfail, -, hmarks⟩ | ⟨n, hn, c, hc, i, looked, hquiet, htake⟩
  · rw [hfail]
    exact hmarks
  · obtain ⟨hsuccess, target, marks, hentry, hmarks⟩ := takeChoice_told (hnext n hn c hc) htake
    rw [if_pos hsuccess]
    exact ⟨c, i, target, marks, hentry, hquiet ▸ hmarks⟩

/-! ## Puzzles -/

omit [Number α] in
theorem marks_scored (g : Game α) (s : State α) (clock : Feed Int) (scored : Nat)
    (lines : List LogLine) :
    Game.marks { g with
      state := s, clock, scored, notes := g.notes ++ (lines.map .ofScorer).map .log } = g.marks := by
  refine Game.marks_logged_quiet { g with state := s, clock, scored } (lines.map .ofScorer) ?_
  intro line hline
  obtain ⟨l, -, rfl⟩ := List.mem_map.1 hline
  rfl

theorem judged_marks (g : Game α) (q : Puzzle α) (answer : Datum α) (timeMs : Option Int)
    (score : Score α) (lines : List LogLine) :
    (g.judged q answer timeMs score lines).2.marks = g.marks := by
  unfold Game.judged
  dsimp only
  split
  · exact marks_scored g _ _ _ lines
  · split <;> exact marks_scored g _ _ _ lines

theorem judged_scored (g : Game α) (q : Puzzle α) (answer : Datum α) (timeMs : Option Int)
    (score : Score α) (lines : List LogLine) (a : Attempt α) :
    (g.judged q answer timeMs score lines).1 ≠ .ok (.dismissed a) := by
  unfold Game.judged
  dsimp only
  split
  · rintro ⟨⟩
  · split <;> rintro ⟨⟩

/-- Judging is told of by nothing; an answer that is turned away has no score and changes nothing, but
that its puzzle may get a record. -/
theorem judge_told {answer : Datum α} {timeMs : Option Int} {j : Judgement α}
    (h : (judge setup answer timeMs).run g = (.ok j, after)) :
    after.marks = g.marks ∧
      ∀ a, j = .dismissed a → a.score = none ∧ g.state.Opened after.state := by
  cases hq : g.activePuzzle? setup with
  | none =>
    rw [judge_none hq] at h
    cases h
    refine ⟨g.marks_logged_quiet [.noPuzzle] (by simp [Note.isMark]), ?_⟩
    rintro a ⟨⟩
    exact ⟨rfl, .inl rfl⟩
  | some q =>
    by_cases hopen : q.IsOpen (g.state.progress q.id)
    · rcases hscore : g.scorer setup q answer with ⟨message | score, lines⟩
      · rw [judge_failed hq hopen hscore] at h
        cases h
        refine ⟨?_, by rintro a ⟨⟩; exact ⟨rfl, .inr ⟨q.id, rfl⟩⟩⟩
        refine (Game.marks_logged_quiet (Game.logged
          { g with state := g.state.openProgress q.id, scored := g.scored + 1 }
          (lines.map .ofScorer)) [.scoringFailed q.id] (by simp [Note.isMark])).trans ?_
        exact marks_scored g _ g.clock _ lines
      · rw [judge_scored hq hopen hscore] at h
        have hmarks := judged_marks g q answer timeMs score lines
        have hscored := judged_scored g q answer timeMs score lines
        rw [h] at hmarks hscored
        refine ⟨hmarks, ?_⟩
        rintro a rfl
        exact absurd rfl (hscored a)
    · rw [judge_closed hq hopen] at h
      cases h
      refine ⟨rfl, ?_⟩
      rintro a ⟨⟩
      refine ⟨?_, .inr ⟨q.id, rfl⟩⟩
      unfold Game.closed
      dsimp only
      split <;> rfl

theorem applyOutcome_marks {o : Option (Outcome α)} {report : Option EffectReport}
    (h : (applyOutcome setup o).run g = (.ok report, after)) :
    after.marks = g.marks ++ effectsMarks report := by
  cases o with
  | none =>
    cases h
    rw [effectsMarks, Option.toList_none, List.map_nil, List.append_nil]
  | some o => exact applyAny_marks h

theorem enterAny_told {target : Option String}
    (h : (enterAny setup target).run g = (.ok (), after)) :
    ∃ marks, after.marks = g.marks ++ marks ∧
      (marks = [] ∨ ∃ id, Entered setup id after marks) := by
  cases target with
  | none =>
    cases h
    exact ⟨[], (List.append_nil _).symm, .inl rfl⟩
  | some id =>
    obtain ⟨found, entered, henter, h⟩ := Step.run_bind_eq_ok.1 h
    cases h
    obtain ⟨-, marks, hmarks, htold⟩ := enterNode_told henter
    refine ⟨marks, hmarks, ?_⟩
    cases found with
    | false => exact .inl htold
    | true => exact .inr ⟨id, htold⟩

/-- A scored answer is told of, and the state with what it led to, before the next node is entered. -/
theorem settle_eq_ok {p : Puzzle α} {score : Score α} {resolved : Option Bool} {a : Attempt α}
    (h : (settle setup p score resolved).run g = (.ok a, after)) :
    a.score = some score ∧ ∃ (applied : Game α) (target : Option String),
      applied.marks = g.marks ++ effectsMarks a.report ∧ (enterAny setup target).run
        ((applied.told (.puzzleCompleted p score)).told (.stateChanged applied.state)) =
          (.ok (), after) := by
  unfold settle at h
  obtain ⟨report, applied, happly, h⟩ := Step.run_bind_eq_ok.1 h
  obtain ⟨_, _, hemit, h⟩ := Step.run_bind_eq_ok.1 h
  rw [emit_run] at hemit
  cases hemit
  obtain ⟨_, _, hemit, h⟩ := Step.run_bind_eq_ok.1 h
  rw [emitState_run] at hemit
  cases hemit
  obtain ⟨_, entered, henter, h⟩ := Step.run_bind_eq_ok.1 h
  cases h
  exact ⟨rfl, applied, _, applyOutcome_marks happly, henter⟩

theorem settle_told {p : Puzzle α} {score : Score α} {resolved : Option Bool} {a : Attempt α}
    (h : (settle setup p score resolved).run g = (.ok a, after)) :
    a.score = some score ∧ ∃ s marks, (marks = [] ∨ ∃ id, Entered setup id after marks) ∧
      after.marks = g.marks ++ (effectsMarks a.report ++
        [.event (.puzzleCompleted p score), .event (.stateChanged s)] ++ marks) := by
  obtain ⟨hscore, applied, target, happlied, henter⟩ := settle_eq_ok h
  obtain ⟨marks, hmarks, htold⟩ := enterAny_told henter
  refine ⟨hscore, applied.state, marks, htold, ?_⟩
  rw [hmarks, Game.marks_told, Game.marks_told, happlied]
  simp

theorem solve_told {answer : Datum α} {timeMs : Option Int} {a : Attempt α}
    (h : (solve setup answer timeMs).run g = (.ok a, after)) :
    if a.score.isSome then
      ∃ p score s marks, (marks = [] ∨ ∃ id, Entered setup id after marks) ∧
        after.marks = g.marks ++ (effectsMarks a.report ++
          [.event (.puzzleCompleted p score), .event (.stateChanged s)] ++ marks)
    else after.marks = g.marks := by
  unfold solve at h
  obtain ⟨j, judged, hjudge, h⟩ := Step.run_bind_eq_ok.1 h
  obtain ⟨hquiet, hdismissed⟩ := judge_told hjudge
  cases j with
  | dismissed d =>
    cases h
    rw [(hdismissed a rfl).1]
    exact hquiet
  | scored p score resolved =>
    obtain ⟨hscore, s, marks, htold, hmarks⟩ := settle_told h
    rw [hscore]
    exact ⟨p, score, s, marks, htold, hquiet ▸ hmarks⟩

/-! ## Hints -/

/-- A hint that cannot be paid for changes nothing. -/
theorem payHint_refused {p : Puzzle α} (h : (payHint setup p).run g = (.ok false, after)) :
    after.state = g.state ∧ after.marks = g.marks := by
  unfold payHint at h
  split at h
  · cases h
  · rw [Step.run_bind, state_run] at h
    dsimp only at h
    split at h
    · cases h
      exact ⟨rfl, g.marks_logged_quiet [.hintUnaffordable p.id] (by simp [Note.isMark])⟩
    · obtain ⟨report, applied, -, h⟩ := Step.run_bind_eq_ok.1 h
      cases h

theorem payHint_told {p : Puzzle α} (h : (payHint setup p).run g = (.ok true, after)) :
    ∃ report, after.marks = g.marks ++ effectsMarks report ∧
      report.isSome = (p.dynamic.bind Dynamic.hintCost).isSome := by
  unfold payHint at h
  split at h
  · next hfree =>
    cases h
    exact ⟨none, (List.append_nil _).symm, by rw [hfree]; rfl⟩
  · next cost hcost =>
    rw [Step.run_bind, state_run] at h
    dsimp only at h
    split at h
    · cases h
    · obtain ⟨report, applied, happly, h⟩ := Step.run_bind_eq_ok.1 h
      cases h
      exact ⟨some report, (applyEffects_eq_ok happly).marks, by rw [hcost]; rfl⟩

omit [Number α] in
theorem showHint_told {p : Puzzle α} {used : Int} {hint : String}
    (h : (showHint p used).run g = (.ok hint, after)) :
    after.marks = g.marks ++ [.event (.stateChanged after.state)] := by
  unfold showHint at h
  split at h
  · cases h
  · cases h
    exact Game.marks_told _ _

/-- No hint is given, and nothing is changed but that the puzzle may get a record, or a hint of the
puzzle in play is paid for and shown. -/
theorem hint_eq_ok {hint : Option String} (h : (Play.hint setup).run g = (.ok hint, after)) :
    (hint = none ∧ after.marks = g.marks ∧ g.state.Opened after.state) ∨
    ∃ p used shown payed, hint = some shown ∧ g.activePuzzle? setup = some p ∧
      (payHint setup p).run { g with state := g.state.openProgress p.id } = (.ok true, payed) ∧
      (showHint p used).run payed = (.ok shown, after) := by
  unfold Play.hint at h
  rw [Step.run_bind, Step.run_get] at h
  dsimp only at h
  split at h
  · cases h
    exact .inl ⟨rfl, rfl, .inl rfl⟩
  · next p hp =>
    split at h
    · cases h
      exact .inl ⟨rfl, rfl, .inl rfl⟩
    · rw [Step.run_bind, openProgress_run] at h
      dsimp only at h
      split at h
      · cases h
        exact .inl ⟨rfl, rfl, .inr ⟨p.id, rfl⟩⟩
      · obtain ⟨paid, payed, hpay, h⟩ := Step.run_bind_eq_ok.1 h
        cases paid with
        | false =>
          cases h
          obtain ⟨hstate, hmarks⟩ := payHint_refused hpay
          exact .inl ⟨rfl, hmarks, .inr ⟨p.id, hstate⟩⟩
        | true =>
          obtain ⟨shown, hshow, rfl⟩ := Step.run_map_eq_ok.1 h
          exact .inr ⟨p, _, shown, payed, rfl, hp, hpay, hshow⟩

theorem hint_told {hint : Option String} (h : (Play.hint setup).run g = (.ok hint, after)) :
    if hint.isSome then
      ∃ p report s, g.activePuzzle? setup = some p ∧
        after.marks = g.marks ++ (effectsMarks report ++ [.event (.stateChanged s)]) ∧
        report.isSome = (p.dynamic.bind Dynamic.hintCost).isSome
    else after.marks = g.marks := by
  rcases hint_eq_ok h with ⟨rfl, hmarks, -⟩ | ⟨p, used, shown, payed, rfl, hp, hpay, hshow⟩
  · exact hmarks
  · obtain ⟨report, hmarks, hreport⟩ := payHint_told hpay
    refine ⟨p, report, after.state, hp, ?_, hreport⟩
    rw [showHint_told hshow, hmarks, List.append_assoc]
    rfl

end Play

/-! ## Operations -/

variable {setup : Setup α} {g after : Game α}

/-- A move runs its step on a game without notes, and takes the notes out again. -/
theorem Game.move_run {β : Type} {m : Move α} {x : Play α β} {f : β → Reply α} {result : Except Fault β}
    (hstep : m.step setup = f <$> x) (h : x.run { g with notes := [] } = (result, after)) :
    g.move setup m = (⟨result.map f, after.notes⟩, { after with notes := [] }) := by
  unfold Game.move Game.run
  rw [hstep, Step.run_map, h]
  cases result <;> rfl

theorem Play.timerActive_marks {timer : String} {running : Bool}
    (h : (Play.timerActive timer).run g = (.ok running, after)) : after.marks = g.marks := by
  cases h
  rfl

omit [Number α] in
theorem Play.load_told {snapshot : Except RestoreError (State α)} {result : Except RestoreError Unit}
    (h : (Play.load snapshot).run g = (.ok result, after)) :
    after.marks = g.marks ++ match result with
      | .ok _ => [.event (.stateChanged after.state)]
      | .error _ => [] := by
  cases snapshot with
  | error e =>
    cases h
    exact (List.append_nil _).symm
  | ok s =>
    cases h
    exact Game.marks_told _ _

omit [Number α] in
/-- An entry at the end of what is told. -/
theorem Entered.behind {start : String} (front : List (Note α)) {marks : List (Note α)}
    (h : Entered setup start after marks) (hmarks : after.marks = front ++ marks)
    (hfront : enteredNodes front = [] ∧ redirects front = []) :
    kinds after.notes = kinds front ++ kinds marks ∧
      Entry setup start after.state.currentNode after.notes (kinds marks) := by
  refine ⟨by rw [← kinds_marks, hmarks, kinds_append], h.among ?_ ?_⟩
  · rw [← redirects_marks, hmarks, redirects_append, hfront.2, List.nil_append]
  · rw [← enteredNodes_marks, hmarks, enteredNodes_append, hfront.1, List.nil_append]

section

variable (hfresh : g.marks = [])

include hfresh

omit [Number α] in
theorem kinds_quiet (h : after.marks = g.marks) : kinds after.notes = [] := by
  rw [← kinds_marks, h, hfresh]
  rfl

theorem start_conforms {found : Bool} (h : (Play.start setup).run g = (.ok found, after)) :
    Answer.Conforms setup g after after.notes (.moved (.started found)) := by
  obtain ⟨hfound, marks, hmarks, htold⟩ := Play.enterNode_told (g := g) h
  rw [hfresh, List.nil_append] at hmarks
  show if (setup.story.node? g.state.currentNode).isSome then _ else _
  rw [← hfound]
  cases found with
  | false =>
    rw [← kinds_marks, hmarks, show marks = [] from htold]
    rfl
  | true =>
    obtain ⟨hkinds, hentry⟩ := Entered.behind [] htold hmarks ⟨rfl, rfl⟩
    show Entry _ _ _ _ (kinds after.notes)
    rw [hkinds]
    exact hentry

theorem choose_conforms {index : Int} {r : ChoiceResult}
    (hnext : ∀ n ∈ setup.story.nodes, ∀ c ∈ n.choices, (setup.story.node? c.next).isSome = true)
    (h : (Play.choose setup index).run g = (.ok r, after)) :
    Answer.Conforms setup g after after.notes (.moved (.chosen r)) := by
  have htold := Play.choose_told hnext h
  show if r.success then _ else _
  cases hsuccess : r.success with
  | false =>
    rw [hsuccess] at htold
    exact kinds_quiet hfresh htold
  | true =>
    rw [hsuccess] at htold
    obtain ⟨c, i, target, marks, hentered, hmarks⟩ := htold
    obtain ⟨hword, hnodes, hredirects⟩ := effectsMarks_tell (α := α) r.report
    rw [hfresh, List.nil_append] at hmarks
    obtain ⟨hkinds, hentry⟩ := hentered.behind _ hmarks ⟨hnodes, hredirects⟩
    refine ⟨target, kinds marks, ?_, hentry⟩
    rw [hkinds, ← hword]
    rfl

theorem solve_conforms {answer : Datum α} {timeMs : Option Int} {a : Attempt α}
    (h : (Play.solve setup answer timeMs).run g = (.ok a, after)) :
    Answer.Conforms setup g after after.notes (.moved (.attempted a)) := by
  have htold := Play.solve_told h
  show if a.score.isSome then _ else _
  cases hscore : a.score.isSome with
  | false =>
    rw [hscore] at htold
    exact kinds_quiet hfresh htold
  | true =>
    rw [hscore] at htold
    obtain ⟨p, score, s, marks, hend, hmarks⟩ := htold
    obtain ⟨hword, hnodes, hredirects⟩ := effectsMarks_tell (α := α) a.report
    rw [hfresh, List.nil_append] at hmarks
    refine ⟨kinds marks, ?_, ?_⟩
    · rw [← kinds_marks, hmarks, kinds_append, kinds_append, hword]
      rfl
    · rcases hend with rfl | ⟨id, hentered⟩
      · exact .inl rfl
      · refine .inr ⟨id, (hentered.behind _ hmarks ⟨?_, ?_⟩).2⟩
        · rw [enteredNodes_append, hnodes]
          rfl
        · rw [redirects_append, hredirects]
          rfl

theorem hint_conforms {hint : Option String} (h : (Play.hint setup).run g = (.ok hint, after)) :
    Answer.Conforms setup g after after.notes (.moved (.hinted hint)) := by
  have htold := Play.hint_told h
  cases hint with
  | none => exact kinds_quiet hfresh htold
  | some hint =>
    obtain ⟨p, report, s, hp, hmarks, hreport⟩ := htold
    refine ⟨p, hp, ?_⟩
    rw [← hreport, ← kinds_marks, hmarks, hfresh, List.nil_append, kinds_append,
      (effectsMarks_tell report).1]
    rfl

theorem move_conforms {m : Move α} {reply : Reply α}
    (hnext : ∀ n ∈ setup.story.nodes, ∀ c ∈ n.choices, (setup.story.node? c.next).isSome = true)
    (h : (m.step setup).run g = (.ok reply, after)) :
    Answer.Conforms setup g after after.notes (.moved reply) := by
  cases m with
  | start =>
    obtain ⟨found, hrun, rfl⟩ := Step.run_map_eq_ok.1 h
    exact start_conforms hfresh hrun
  | look =>
    obtain ⟨found, hrun, rfl⟩ := Step.run_map_eq_ok.1 h
    exact kinds_quiet hfresh (Play.choices_quiet hrun).2
  | choose index =>
    obtain ⟨r, hrun, rfl⟩ := Step.run_map_eq_ok.1 h
    exact choose_conforms hfresh hnext hrun
  | solve answer timeMs =>
    obtain ⟨a, hrun, rfl⟩ := Step.run_map_eq_ok.1 h
    exact solve_conforms hfresh hrun
  | hint =>
    obtain ⟨hint, hrun, rfl⟩ := Step.run_map_eq_ok.1 h
    exact hint_conforms hfresh hrun

/-- What is told of an operation that returns conforms to the protocol. -/
theorem step_conforms {operation : Operation α} {answer : Answer α}
    (hnext : ∀ n ∈ setup.story.nodes, ∀ c ∈ n.choices, (setup.story.node? c.next).isSome = true)
    (h : (operation.step setup).run g = (.ok answer, after)) :
    answer.Conforms setup g after after.notes := by
  cases operation with
  | move m =>
    obtain ⟨reply, hrun, rfl⟩ := Step.run_map_eq_ok.1 h
    exact move_conforms hfresh hnext hrun
  | timer name =>
    obtain ⟨running, hrun, rfl⟩ := Step.run_map_eq_ok.1 h
    exact kinds_quiet hfresh (Play.timerActive_marks hrun)
  | load snapshot =>
    obtain ⟨result, hrun, rfl⟩ := Step.run_map_eq_ok.1 h
    have hmarks := Play.load_told hrun
    rw [hfresh, List.nil_append] at hmarks
    cases result with
    | ok u =>
      show kinds after.notes = _
      rw [← kinds_marks, hmarks]
      rfl
    | error e =>
      show kinds after.notes = _
      rw [← kinds_marks, hmarks]
      rfl
  | reset =>
    obtain ⟨_, hrun, rfl⟩ := Step.run_map_eq_ok.1 h
    have hmarks : after.marks = [.event (.stateChanged after.state)] := by
      cases hrun
      exact (Game.marks_told _ _).trans (congrArg (· ++ _) hfresh)
    show kinds after.notes = _
    rw [← kinds_marks, hmarks]
    rfl

end

/-! ## Runs -/

/-- The game stands at a node of the story. -/
theorem presence_upheld : (Invariant.ofState fun s : State α =>
    setup.story.hasNode s.currentNode = true).Upheld setup := by
  refine Invariant.ofState_upheld (fun _ n hn _ => Story.hasNode_of_mem hn) fun s e s' hs h => ?_
  rwa [h.frame.1]

/-- In a game that starts at a node of the story, whatever is done, what is told of each operation that
returns conforms to the protocol; and the game stands at a node of the story unless a snapshot that names
none was loaded. -/
theorem operate_conforms [FaithfulNumber α] {language : PatternLanguage}
    (hvalid : setup.story.Valid language) (hstart : setup.StartResolves) (state : Option (State α))
    (hstate : ∀ s, state = some s → setup.story.hasNode s.currentNode = true) (draws : Feed α)
    (clock : Feed Int) (operations : List (Operation α)) :
    let g := (setup.newGame state draws clock).operate setup operations
    ((∀ s, Operation.load (.ok s) ∈ operations → setup.story.hasNode s.currentNode = true) →
      (g.currentNode? setup).isSome = true) ∧
    ∀ (operation : Operation α) (answer : Answer α) (after : Game α) (notes : List (Note α)),
      g.run (operation.step setup) = (.ok answer, after, notes) →
      answer.Conforms setup g after notes := by
  have hsound := hvalid.sound
  have hinitial : setup.story.hasNode setup.initialState.currentNode = true :=
    (resolving_initial hsound hstart draws clock).state.1
  intro g
  refine ⟨fun hloads => ?_, fun operation answer after notes h => ?_⟩
  · refine (presence_upheld.operate (fun _ _ _ hs => hs) hinitial hloads ⟨?_, ?_⟩).state
    · cases state with
      | none => exact hinitial
      | some s => exact hstate s rfl
    · intro q _
      trivial
  · have hnext : ∀ n ∈ setup.story.nodes, ∀ c ∈ n.choices, (setup.story.node? c.next).isSome = true :=
      fun n hn c hc => ((hsound.node n hn).choice c hc).next
    unfold Game.run at h
    rcases hrun : (operation.step setup).run { g with notes := [] } with ⟨result, left⟩
    rw [hrun] at h
    cases h
    exact step_conforms (g := { g with notes := [] }) rfl hnext hrun

/-- The answer that solves the riddle is told of by its effects, by the solved puzzle, and by an entry of
the end. -/
theorem riddle_conforms :
    let g := (Setup.riddle.newGame none (.always (.int 0)) (.always 0)).operate Setup.riddle
      [.reset, .move .start]
    let solve : Operation Amount := .move (.solve (.list [.whole 1]) none)
    (g.currentNode? Setup.riddle).isSome = true ∧
    ∃ answer after notes, g.run (solve.step Setup.riddle) = (.ok answer, after, notes) ∧
      answer.Conforms Setup.riddle g after notes ∧
      kinds notes = [.effectsApplied, .puzzleCompleted, .stateChanged, .nodeEntered, .stateChanged,
        .gameEnded] := by
  intro g solve
  have hstart : Setup.riddle.StartResolves := by rintro id ⟨⟩
  obtain ⟨hstands, hconforms⟩ := operate_conforms Story.riddle_valid hstart none (by rintro s ⟨⟩)
    (.always (.int 0)) (.always 0) [.reset, .move .start]
  refine ⟨hstands (by simp), ?_⟩
  have hreturns : (g.run (solve.step Setup.riddle)).1.toOption.isSome = true := by decide +kernel
  have hkinds : kinds (g.run (solve.step Setup.riddle)).2.2 = [.effectsApplied, .puzzleCompleted,
      .stateChanged, .nodeEntered, .stateChanged, .gameEnded] := by decide +kernel
  rcases hrun : g.run (solve.step Setup.riddle) with ⟨_ | answer, after, notes⟩
  · rw [hrun] at hreturns
    cases hreturns
  · rw [hrun] at hkinds
    exact ⟨answer, after, notes, rfl, hconforms solve answer after notes hrun, hkinds⟩

end StoryRules
