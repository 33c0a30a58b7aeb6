import StoryRules.Proofs.Engine.Invariant
import StoryRules.Proofs.Engine.Judge
import StoryRules.Proofs.Validation.Sound

/-!
# Outcomes come about once

A puzzle's outcome of success and that of failure exclude each other, and neither comes about twice,
however often the puzzle is left and entered again and whatever variants are drawn.  Behind it stands the
record of the puzzle: an outcome is brought about only while the puzzle is open, and closes it, and a
closed puzzle stays closed.

    (p.outcomesIn (g.resolutions setup moves)).length ≤ 1      (play_resolvesOnce)
-/

namespace StoryRules

variable {α : Type} [Number α]

/-! ## Outcomes of a run -/

/-- The outcome that judging an answer brings about: of which puzzle, and whether it is that of success. -/
def Judgement.resolution : Except Fault (Judgement α) → Option (String × Bool)
  | .ok (.scored p _ (some success)) => some (p.id, success)
  | _ => none

/-- The outcome that a move brings about. -/
def Move.resolution (setup : Setup α) (g : Game α) : Move α → Option (String × Bool)
  | .solve answer timeMs =>
    Judgement.resolution ((Play.judge setup answer timeMs).run { g with notes := [] }).1
  | _ => none

/-- The outcomes that moves bring about, in order. -/
def Game.resolutions (setup : Setup α) (g : Game α) : List (Move α) → List (String × Bool)
  | [] => []
  | m :: rest => (m.resolution setup g).toList ++ Game.resolutions setup (g.move setup m).2 rest

/-- The outcomes of one puzzle: whether each is that of success. -/
def Puzzle.outcomesIn (p : Puzzle α) (resolutions : List (String × Bool)) : List Bool :=
  (resolutions.filter fun r => r.1 = p.id).map Prod.snd

/-! ## What other moves leave alone -/

/-- How a puzzle stands, and that puzzles in play have its limit of attempts if they have its id. -/
def standing (p : Puzzle α) (solved : Bool) (attempts : Int) : Invariant α :=
  .on (fun s => (s.progress p.id).solved = solved ∧ (s.progress p.id).attempts = attempts)
    fun q => q.id = p.id → q.attemptsMax = p.attemptsMax

/-- No variant of a puzzle sets another limit of attempts. -/
def Puzzle.KeepsLimit (p : Puzzle α) : Prop :=
  ∀ v ∈ p.variants, v.item.has "attempts_max" = false

instance (p : Puzzle α) : Decidable p.KeepsLimit :=
  inferInstanceAs (Decidable (∀ v ∈ p.variants, v.item.has "attempts_max" = false))

variable {setup : Setup α} {n : Node α} {p : Puzzle α}

theorem standing_upheld [FaithfulNumber α] (hstory : setup.story.Orderly)
    (hn : n ∈ setup.story.nodes) (hp : n.puzzle = some p) (hlimit : p.KeepsLimit) (solved : Bool)
    (attempts : Int) : (standing p solved attempts).Upheld setup := by
  refine Invariant.on_upheld (fun s n' _ hs => ?_) (fun s e s' hs h => ?_)
    (fun n' hn' p' hp' hid => ?_) fun n' hn' p' hp' v hv q hq hid => ?_
  · unfold State.progress at hs ⊢
    rwa [State.puzzles_visit]
  · unfold State.progress at hs ⊢
    rwa [h.frame.2.2]
  · rw [Story.puzzle_unique hstory.puzzleIds hn' hn hp' hp hid]
  · cases Story.puzzle_unique hstory.puzzleIds hn' hn hp' hp hid
    show q.attemptsMax = p.attemptsMax
    exact Puzzle.attemptsMax_withVariant hq (hlimit v hv)

omit [Number α] in
theorem standing_hinted (p : Puzzle α) (solved : Bool) (attempts : Int) :
    (standing p solved attempts).Hinted where
  opened s puzzle hs := by
    unfold standing Invariant.on at hs ⊢
    dsimp only at hs ⊢
    rwa [State.progress_openProgress]
  shown s puzzle hs := by
    unfold standing Invariant.on at hs ⊢
    dsimp only at hs ⊢
    by_cases hid : puzzle = p.id
    · subst hid
      rwa [State.progress_setProgress_self]
    · rwa [State.progress_setProgress_of_ne _ _ hid]

/-! ## What a move does to a record -/

/-- Puzzles in play have the limit of attempts of the puzzle whose id they have. -/
def Game.KeepsLimit (g : Game α) (p : Puzzle α) : Prop :=
  ∀ q, g.active = some q → q.id = p.id → q.attemptsMax = p.attemptsMax

/-- What a step may do to the record of a puzzle, where `closing` tells of steps that bring about an
outcome of it: nothing, or one more attempt while the puzzle is open. -/
structure Puzzle.Advances (p : Puzzle α) (r : Progress α) (closing : Prop) (r' : Progress α) : Prop where
  attempts : r'.attempts = r.attempts ∧ r'.solved = r.solved ∧ ¬ closing ∨
    r'.attempts = r.attempts + 1 ∧ p.IsOpen r
  closed : closing → ¬ p.IsOpen r'

omit [Number α] in
theorem Puzzle.exhausted_congr {p q : Puzzle α} (h : q.attemptsMax = p.attemptsMax) (attempts : Int) :
    q.exhausted attempts = p.exhausted attempts := by
  unfold exhausted
  rw [h]

omit [Number α] in
theorem Puzzle.Advances.congr {r r' r'' : Progress α} {closing : Prop}
    (h : p.Advances r closing r') (hattempts : r''.attempts = r'.attempts)
    (hsolved : r''.solved = r'.solved) : p.Advances r closing r'' := by
  obtain ⟨hadvance, hclosed⟩ := h
  unfold Puzzle.IsOpen at hclosed
  rw [← hattempts, ← hsolved] at hclosed hadvance
  exact ⟨hadvance, hclosed⟩

omit [Number α] in
/-- A step that leaves alone how a puzzle stands. -/
theorem standing_run {β : Type} {x : Play α β}
    (hx : ∀ solved attempts, Keeps (standing p solved attempts).Holds x fun _ => True) {g : Game α}
    (hg : g.KeepsLimit p) :
    (x.run g).2.KeepsLimit p ∧
      ((x.run g).2.state.progress p.id).attempts = (g.state.progress p.id).attempts ∧
      ((x.run g).2.state.progress p.id).solved = (g.state.progress p.id).solved := by
  obtain ⟨h, -⟩ := hx (g.state.progress p.id).solved (g.state.progress p.id).attempts g
    ⟨⟨⟨rfl, rfl⟩, hg⟩, fun _ _ => trivial⟩
  exact ⟨h.active, h.state.2, h.state.1⟩

/-- Whether an outcome is one of a puzzle. -/
def Puzzle.OutcomeIs (p : Puzzle α) (resolution : Option (String × Bool)) : Prop :=
  ∃ success, resolution = some (p.id, success)

theorem judged_advances {g : Game α} {q : Puzzle α} (hlimit : q.attemptsMax = p.attemptsMax)
    (hid : q.id = p.id) (hopen : q.IsOpen (g.state.progress q.id)) (answer : Datum α)
    (timeMs : Option Int) (score : Score α) (lines : List LogLine) :
    let judged := g.judged q answer timeMs score lines
    judged.2.active = g.active ∧
      p.Advances (g.state.progress p.id) (p.OutcomeIs (Judgement.resolution judged.1))
        (judged.2.state.progress p.id) := by
  have hopen' : p.IsOpen (g.state.progress p.id) := by
    rw [← hid]
    exact ⟨hopen.1, (Puzzle.exhausted_congr hlimit _) ▸ hopen.2⟩
  rw [← hid] at hopen' ⊢
  unfold Game.judged
  dsimp only
  cases answer.plain with
  | error fault =>
    refine ⟨rfl, .inr ⟨?_, hopen'⟩, ?_⟩
    · dsimp only
      rw [State.progress_setProgress_self]
      rfl
    · rintro ⟨_, ⟨⟩⟩
  | ok plain =>
    dsimp only
    generalize q.scoreInTime (g.state.progress q.id).attempts timeMs score = final
    cases hcorrect : final.correct with
    | true =>
      refine ⟨rfl, .inr ⟨?_, hopen'⟩, fun _ hstill => ?_⟩
      · show ((State.setProgress _ _ _).progress q.id).attempts = _
        rw [State.progress_setProgress_self]
        rfl
      · have hsolved : ((State.setProgress _ _ _).progress q.id).solved = false := hstill.1
        rw [State.progress_setProgress_self] at hsolved
        cases hsolved
    | false =>
      refine ⟨rfl, .inr ⟨?_, hopen'⟩, fun hclosing hstill => ?_⟩
      · show ((State.setProgress _ _ _).progress q.id).attempts = _
        rw [State.progress_setProgress_self]
        rfl
      · have hleft : p.exhausted ((State.setProgress _ _ _).progress q.id).attempts = false := hstill.2
        rw [State.progress_setProgress_self, ← Puzzle.exhausted_congr hlimit] at hleft
        obtain ⟨success, hresult⟩ := hclosing
        rw [if_neg (by decide), hleft] at hresult
        cases hresult

omit [Number α] in
/-- Such a step brings about no outcome. -/
theorem quiet_advances {β : Type} {x : Play α β}
    (hx : ∀ solved attempts, Keeps (standing p solved attempts).Holds x fun _ => True) {g : Game α}
    (hg : g.KeepsLimit p) {closing : Prop} (hclosing : ¬ closing) :
    (x.run g).2.KeepsLimit p ∧
      p.Advances (g.state.progress p.id) closing ((x.run g).2.state.progress p.id) := by
  obtain ⟨hkeeps, hattempts, hsolved⟩ := standing_run hx hg
  exact ⟨hkeeps, .inl ⟨hattempts, hsolved, hclosing⟩, fun h => absurd h hclosing⟩

/-- An answer to a puzzle that is not open is turned away, whatever the scorer. -/
theorem solve_closed {g : Game α} {q : Puzzle α} (hq : g.activePuzzle? setup = some q)
    (hclosed : ¬ q.IsOpen (g.state.progress q.id)) (answer : Datum α) (timeMs : Option Int) :
    (Play.solve setup answer timeMs).run g =
      (.ok (g.closed q), { g with state := g.state.openProgress q.id }) :=
  Play.solve_dismissed (Play.judge_closed hq hclosed)

/-! ## Where a run stands -/

/-- Where a run that brought about some outcomes stands with a puzzle. -/
structure Game.Once (g : Game α) (p : Puzzle α) (outcomes : List Bool) : Prop where
  limit : g.KeepsLimit p
  atMostOne : outcomes.length ≤ 1
  closed : outcomes ≠ [] → ¬ p.IsOpen (g.state.progress p.id)
  counted : outcomes ≠ [] → 0 < (g.state.progress p.id).attempts
  nonnegative : 0 ≤ (g.state.progress p.id).attempts
  bounded : ∀ most, p.attemptsMax = some most → (g.state.progress p.id).attempts ≤ max 0 most

omit [Number α] in
theorem Puzzle.outcomesIn_append (p : Puzzle α) (before after : List (String × Bool)) :
    p.outcomesIn (before ++ after) = p.outcomesIn before ++ p.outcomesIn after := by
  simp [outcomesIn]

omit [Number α] in
theorem Puzzle.outcomesIn_toList (p : Puzzle α) (resolution : Option (String × Bool)) :
    p.OutcomeIs resolution ∧ (p.outcomesIn resolution.toList).length = 1 ∨
      ¬ p.OutcomeIs resolution ∧ p.outcomesIn resolution.toList = [] := by
  cases resolution with
  | none => exact .inr ⟨by rintro ⟨_, ⟨⟩⟩, rfl⟩
  | some r =>
    obtain ⟨id, success⟩ := r
    by_cases hid : id = p.id
    · exact .inl ⟨⟨success, by rw [hid]⟩, by simp [outcomesIn, hid]⟩
    · refine .inr ⟨?_, by simp [outcomesIn, hid]⟩
      rintro ⟨_, h⟩
      exact hid (congrArg Prod.fst (Option.some.inj h))

omit [Number α] in
/-- An attempt is made only while there is one left. -/
theorem Puzzle.IsOpen.attempts_lt {r : Progress α} (h : p.IsOpen r) {most : Int}
    (hmost : p.attemptsMax = some most) : r.attempts < most := by
  have hleft := h.2
  unfold exhausted at hleft
  rw [hmost] at hleft
  exact Int.not_le.1 (of_decide_eq_false hleft)

omit [Number α] in
theorem Game.Once.advance {g g' : Game α} {outcomes : List Bool} (h : g.Once p outcomes)
    {resolution : Option (String × Bool)} (hlimit : g'.KeepsLimit p)
    (hadvances : p.Advances (g.state.progress p.id) (p.OutcomeIs resolution)
      (g'.state.progress p.id)) :
    g'.Once p (outcomes ++ p.outcomesIn resolution.toList) := by
  obtain ⟨hadvance, hclosed⟩ := hadvances
  rcases hadvance with ⟨hattempts, hsolved, hquiet⟩ | ⟨hattempts, hopen⟩
  · rcases p.outcomesIn_toList resolution with ⟨houtcome, -⟩ | ⟨-, hnone⟩
    · exact absurd houtcome hquiet
    · rw [hnone, List.append_nil]
      refine ⟨hlimit, h.atMostOne, fun hsome => ?_, ?_, ?_, ?_⟩
      · unfold Puzzle.IsOpen
        rw [hattempts, hsolved]
        exact h.closed hsome
      · rw [hattempts]
        exact h.counted
      · rw [hattempts]
        exact h.nonnegative
      · rw [hattempts]
        exact h.bounded
  · have hbefore : outcomes = [] := Decidable.of_not_not fun hsome => h.closed hsome hopen
    have hcounted : 0 < (g'.state.progress p.id).attempts := by
      have := h.nonnegative
      omega
    subst hbefore
    rw [List.nil_append]
    refine ⟨hlimit, ?_, fun hsome => ?_, fun _ => hcounted, Int.le_of_lt hcounted, ?_⟩
    · rcases p.outcomesIn_toList resolution with ⟨-, hone⟩ | ⟨-, hnone⟩
      · exact Nat.le_of_eq hone
      · rw [hnone]
        exact Nat.zero_le 1
    · rcases p.outcomesIn_toList resolution with ⟨houtcome, -⟩ | ⟨-, hnone⟩
      · exact hclosed houtcome
      · exact absurd hnone hsome
    · intro most hmost
      have := hopen.attempts_lt hmost
      omega

section

variable [FaithfulNumber α] (hstory : setup.story.Orderly) (hn : n ∈ setup.story.nodes)
  (hp : n.puzzle = some p) (hlimit : p.KeepsLimit)

include hstory hn hp hlimit

theorem judge_advances {g : Game α} (hg : g.KeepsLimit p) (answer : Datum α)
    (timeMs : Option Int) :
    let judged := (Play.judge setup answer timeMs).run g
    judged.2.active = g.active ∧
      p.Advances (g.state.progress p.id) (p.OutcomeIs (Judgement.resolution judged.1))
        (judged.2.state.progress p.id) := by
  have hquiet : ∀ {r : Progress α} {a : Attempt α}, r = g.state.progress p.id →
      p.Advances (g.state.progress p.id)
        (p.OutcomeIs (Judgement.resolution (.ok (.dismissed a)))) r := by
    rintro r a rfl
    have hnot : ¬ p.OutcomeIs (Judgement.resolution (.ok (.dismissed a))) := by rintro ⟨_, ⟨⟩⟩
    exact ⟨.inl ⟨rfl, rfl, hnot⟩, fun h => absurd h hnot⟩
  cases hq : g.activePuzzle? setup with
  | none =>
    rw [Play.judge_none hq]
    exact ⟨rfl, hquiet rfl⟩
  | some q =>
    by_cases hopen : q.IsOpen (g.state.progress q.id)
    · rcases hscore : g.scorer setup q answer with ⟨_ | score, lines⟩
      · rw [Play.judge_failed hq hopen hscore]
        exact ⟨rfl, hquiet (State.progress_openProgress _ _ _)⟩
      · rw [Play.judge_scored hq hopen hscore]
        by_cases hid : q.id = p.id
        · have hup := standing_upheld hstory hn hp hlimit (g.state.progress p.id).solved
            (g.state.progress p.id).attempts
          have hsame := hup.activePuzzle? ⟨⟨rfl, rfl⟩, hg⟩ hq hid
          exact judged_advances hsame hid hopen answer timeMs score lines
        · obtain ⟨hactive, hsame⟩ := g.judged_frame q answer timeMs score lines hid
          have hnot : ¬ p.OutcomeIs
              (Judgement.resolution (g.judged q answer timeMs score lines).1) := by
            rintro ⟨success, hresult⟩
            unfold Judgement.resolution at hresult
            split at hresult
            · next q' score' success' hjudged =>
              rw [g.judged_puzzle q answer timeMs score lines hjudged] at hresult
              exact hid (congrArg Prod.fst (Option.some.inj hresult))
            · cases hresult
          refine ⟨hactive, .inl ⟨?_, ?_, hnot⟩, fun h => absurd h hnot⟩
          · rw [hsame]
          · rw [hsame]
    · rw [Play.judge_closed hq hopen]
      exact ⟨rfl, hquiet (State.progress_openProgress _ _ _)⟩

/-- Solving does to the record of a puzzle what judging does. -/
theorem solve_advances {g : Game α} (hg : g.KeepsLimit p) (answer : Datum α)
    (timeMs : Option Int) :
    let solved := (Play.solve setup answer timeMs).run g
    solved.2.KeepsLimit p ∧
      p.Advances (g.state.progress p.id)
        (p.OutcomeIs (Judgement.resolution ((Play.judge setup answer timeMs).run g).1))
        (solved.2.state.progress p.id) := by
  obtain ⟨hactive, hadvances⟩ := judge_advances hstory hn hp hlimit hg answer timeMs
  unfold Play.solve
  dsimp only
  rw [Step.run_bind]
  rcases hjudge : (Play.judge setup answer timeMs).run g with ⟨result, g'⟩
  rw [hjudge] at hactive hadvances
  have hg' : g'.KeepsLimit p := fun q hq => hg q (hactive ▸ hq)
  cases result with
  | error fault => exact ⟨hg', hadvances⟩
  | ok j =>
    cases j with
    | dismissed a => exact ⟨hg', hadvances⟩
    | scored q score resolved =>
      have hpuzzle : q.id = p.id → q.attemptsMax = p.attemptsMax := by
        have hactive := Play.judge_puzzle (congrArg Prod.fst hjudge)
        have hup := standing_upheld hstory hn hp hlimit (g.state.progress p.id).solved
          (g.state.progress p.id).attempts
        exact hup.activePuzzle? ⟨⟨rfl, rfl⟩, hg⟩ hactive
      obtain ⟨hkeeps, hattempts, hsolved⟩ := standing_run (fun solved attempts =>
        (standing_upheld hstory hn hp hlimit solved attempts).settle hpuzzle score resolved) hg'
      exact ⟨hkeeps, hadvances.congr hattempts hsolved⟩

/-- A move does nothing to the record of a puzzle, or it makes one more attempt while the puzzle is open;
if it brings about an outcome, the puzzle is closed. -/
theorem move_advances {g : Game α} (hg : g.KeepsLimit p) (m : Move α) :
    (g.move setup m).2.KeepsLimit p ∧
      p.Advances (g.state.progress p.id) (p.OutcomeIs (m.resolution setup g))
        ((g.move setup m).2.state.progress p.id) := by
  have hup := standing_upheld hstory hn hp hlimit
  have hnone : ¬ p.OutcomeIs none := by rintro ⟨_, ⟨⟩⟩
  have hempty : Game.KeepsLimit { g with notes := [] } p := hg
  cases m with
  | start =>
    have hstart : ∀ solved attempts, Keeps (standing p solved attempts).Holds
        (Move.step setup .start) fun _ => True :=
      fun solved attempts => (hup solved attempts).start.map fun _ _ => trivial
    exact quiet_advances hstart hempty hnone
  | look =>
    have hlook : ∀ solved attempts, Keeps (standing p solved attempts).Holds
        (Move.step setup .look) fun _ => True :=
      fun solved attempts => (hup solved attempts).choices.map fun _ _ => trivial
    exact quiet_advances hlook hempty hnone
  | choose index =>
    have hchoose : ∀ solved attempts, Keeps (standing p solved attempts).Holds
        (Move.step setup (.choose index)) fun _ => True :=
      fun solved attempts => ((hup solved attempts).choose index).map fun _ _ => trivial
    exact quiet_advances hchoose hempty hnone
  | hint =>
    have hhint : ∀ solved attempts, Keeps (standing p solved attempts).Holds
        (Move.step setup .hint) fun _ => True := fun solved attempts =>
      ((hup solved attempts).hint (standing_hinted p solved attempts)).map fun _ _ => trivial
    exact quiet_advances hhint hempty hnone
  | solve answer timeMs =>
    have hsame : (((Move.solve answer timeMs).step setup).run { g with notes := [] }).2 =
        ((Play.solve setup answer timeMs).run { g with notes := [] }).2 := by
      show ((Reply.attempted <$> Play.solve setup answer timeMs).run _).2 = _
      rw [Step.run_map]
      rcases (Play.solve setup answer timeMs).run { g with notes := [] } with ⟨_ | _, _⟩ <;> rfl
    obtain ⟨hkeeps, hadvances⟩ := solve_advances hstory hn hp hlimit hempty answer timeMs
    dsimp only at hkeeps hadvances
    rw [← hsame] at hkeeps hadvances
    exact ⟨hkeeps, hadvances⟩

/-! ## Runs -/

theorem Game.Once.play (moves : List (Move α)) : ∀ {g : Game α} {outcomes : List Bool},
    g.Once p outcomes →
      (g.play setup moves).2.Once p (outcomes ++ p.outcomesIn (g.resolutions setup moves)) := by
  induction moves with
  | nil =>
    intro g outcomes h
    rwa [show p.outcomesIn (g.resolutions setup []) = [] from rfl, List.append_nil]
  | cons m rest ih =>
    intro g outcomes h
    obtain ⟨hkeeps, hadvances⟩ := move_advances hstory hn hp hlimit h.limit m
    have hrest := ih (h.advance hkeeps hadvances)
    rw [List.append_assoc, ← Puzzle.outcomesIn_append] at hrest
    exact hrest

/-- Once an outcome came about, answers to the puzzle change nothing, and the scorer is not asked. -/
theorem Game.Once.turned_away {g : Game α} {outcomes : List Bool} (h : g.Once p outcomes)
    (hsome : outcomes ≠ []) {q : Puzzle α} (hq : g.activePuzzle? setup = some q) (hid : q.id = p.id)
    (answer : Datum α) (timeMs : Option Int) :
    (∀ scorer, g.move { setup with scorer } (.solve answer timeMs) =
      g.move setup (.solve answer timeMs)) ∧
    (g.move setup (.solve answer timeMs)).2.state = g.state := by
  have hup := standing_upheld hstory hn hp hlimit (g.state.progress p.id).solved
    (g.state.progress p.id).attempts
  have hsame := hup.activePuzzle? ⟨⟨rfl, rfl⟩, h.limit⟩ hq hid
  have hclosed : ¬ q.IsOpen (g.state.progress q.id) := by
    rw [hid]
    intro hopen
    exact h.closed hsome ⟨hopen.1, (Puzzle.exhausted_congr hsame _) ▸ hopen.2⟩
  have hrecord : g.state.openProgress q.id = g.state := by
    rw [hid]
    exact State.openProgress_of_attempts _ (h.counted hsome)
  have hmove : ∀ scorer, g.move { setup with scorer } (.solve answer timeMs) =
      (⟨.ok (.attempted (g.closed q)), []⟩, { g with notes := [] }) := by
    intro scorer
    have hq' : Game.activePuzzle? { g with notes := [] } { setup with scorer } = some q := hq
    unfold Game.move Game.run Move.step
    rw [Step.run_map, solve_closed hq' hclosed]
    dsimp only
    rw [hrecord]
    rfl
  refine ⟨fun scorer => ?_, ?_⟩
  · rw [hmove, hmove setup.scorer]
  · rw [hmove setup.scorer]

end

/-- Of a puzzle whose variants keep its limit of attempts at most one outcome comes about in a run; then
answers to the puzzle change nothing, and the scorer is not asked.  Attempts beyond the limit are not
counted. -/
theorem play_resolvesOnce [FaithfulNumber α] {language : PatternLanguage}
    (hvalid : setup.story.Valid language) (hn : n ∈ setup.story.nodes) (hp : n.puzzle = some p)
    (hlimit : p.KeepsLimit) (draws : Feed α) (clock : Feed Int) (moves : List (Move α)) :
    let fresh := setup.newGame none draws clock
    let g := (fresh.play setup moves).2
    let outcomes := p.outcomesIn (fresh.resolutions setup moves)
    outcomes.length ≤ 1 ∧
    (outcomes ≠ [] → ∀ q, g.activePuzzle? setup = some q → q.id = p.id → ∀ answer timeMs,
      (∀ scorer, g.move { setup with scorer } (.solve answer timeMs) =
        g.move setup (.solve answer timeMs)) ∧
      (g.move setup (.solve answer timeMs)).2.state = g.state) ∧
    ∀ most, p.attemptsMax = some most → (g.state.progress p.id).attempts ≤ max 0 most := by
  have hfresh : (setup.newGame none draws clock).Once p [] :=
    ⟨by rintro q ⟨⟩, Nat.zero_le 1, fun h => absurd rfl h, fun h => absurd rfl h, Int.le_refl 0,
      fun most _ => Int.le_max_left 0 most⟩
  have honce := hfresh.play hvalid.orderly hn hp hlimit moves
  refine ⟨honce.atMostOne, fun hsome q hq hid answer timeMs => ?_, honce.bounded⟩
  exact honce.turned_away hvalid.orderly hn hp hlimit hsome hq hid answer timeMs

/-- After two wrong answers the riddle is closed. -/
theorem riddle_resolvesOnce :
    let moves := [.start, .solve (.list [.whole 0]) none, .solve (.list [.whole 0]) none]
    let fresh := Setup.riddle.newGame none (.always (.int 0)) (.always 0)
    let g := (fresh.play Setup.riddle moves).2
    Puzzle.riddle.outcomesIn (fresh.resolutions Setup.riddle moves) = [false] ∧
    (∀ q, g.activePuzzle? Setup.riddle = some q → q.id = "riddle" → ∀ answer timeMs,
      (g.move Setup.riddle (.solve answer timeMs)).2.state = g.state) ∧
    (g.state.progress "riddle").attempts ≤ 2 := by
  have hfailed : Puzzle.riddle.outcomesIn
      ((Setup.riddle.newGame none (.always (.int 0)) (.always 0)).resolutions Setup.riddle
        [.start, .solve (.list [.whole 0]) none, .solve (.list [.whole 0]) none]) = [false] := by
    decide +kernel
  have hlimit : Puzzle.riddle.KeepsLimit := by decide +kernel
  obtain ⟨n, hn, hp⟩ : ∃ n ∈ Setup.riddle.story.nodes, n.puzzle = some Puzzle.riddle :=
    ⟨_, List.mem_cons_self, rfl⟩
  obtain ⟨-, hclosed, hbounded⟩ := play_resolvesOnce Story.riddle_valid hn hp hlimit
    (.always (.int 0)) (.always 0)
    [.start, .solve (.list [.whole 0]) none, .solve (.list [.whole 0]) none]
  refine ⟨hfailed, fun q hq hid answer timeMs => ?_, hbounded 2 rfl⟩
  have hsome := hfailed.symm ▸ List.cons_ne_nil false []
  exact (hclosed hsome q hq hid answer timeMs).2

end StoryRules
