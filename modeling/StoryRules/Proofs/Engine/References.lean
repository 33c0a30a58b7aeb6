import StoryRules.Proofs.Engine.Invariant
import StoryRules.Proofs.State
import StoryRules.Proofs.Story.Read
import StoryRules.Proofs.Validation.Sound

/-!
# Valid stories play without dangling references

What the check of a story promises holds while it is played: however a fresh game is played, the
current node exists, what effects and outcomes name is found, variants are drawn as they are written,
and no pattern is refused.

    s.Valid language → line.isDangling = false      for every line of every run      (play_resolves)
-/

namespace StoryRules

variable {α : Type}

/-- Play starts at the first node or at a node that the story has. -/
def Setup.StartResolves (setup : Setup α) : Prop :=
  ∀ id, setup.config.startNode = some id → id = "" ∨ setup.story.hasNode id = true

/-- Every lock is that of a choice that is there. -/
def State.LocksResolve (story : Story α) (s : State α) : Prop :=
  ∀ entry ∈ s.lockedChoices, ∀ index ∈ entry.2,
    ∃ n, story.node? entry.1 = some n ∧ 0 ≤ index ∧ index < n.choices.length

theorem State.mem_locks {s : State α} {node : String} {index : Int} (h : index ∈ s.locks node) :
    ∃ indices, (node, indices) ∈ s.lockedChoices ∧ index ∈ indices := by
  unfold State.locks at h
  cases hlocks : s.lockedChoices.get? node with
  | none =>
    rw [hlocks] at h
    cases h
  | some indices =>
    rw [hlocks] at h
    exact ⟨indices, Table.mem_of_get? hlocks, h⟩

theorem State.LocksResolve.put {story : Story α} {s : State α} (h : s.LocksResolve story)
    {node : String} {indices : List Int} (hnew : ∀ index ∈ indices, index ∈ s.locks node ∨
      ∃ n, story.node? node = some n ∧ 0 ≤ index ∧ index < n.choices.length) :
    LocksResolve story { s with lockedChoices := s.lockedChoices.put node indices } := by
  intro entry hentry index hindex
  rcases Table.mem_put hentry with rfl | hentry
  · rcases hnew index hindex with hold | hnew
    · obtain ⟨before, hbefore, hmem⟩ := State.mem_locks hold
      exact h _ hbefore index hmem
    · exact hnew
  · exact h entry hentry index hindex

/-! ## The invariant -/

variable [Number α]

/-- What holds while a sound story is played. -/
def resolving (language : PatternLanguage) (setup : Setup α) : Invariant α where
  state s := setup.story.hasNode s.currentNode = true ∧ s.LocksResolve setup.story
  puzzle p := p.Resolves language setup.story
  effects := Effect.AllResolve setup.story
  target id := setup.story.hasNode id = true
  line l := l.isDangling = false ∧ ((∀ n, setup.scorer.value n = Scorer.standard language) →
    ∀ id message, l ≠ .ofScorer (.patternInvalid id message))

variable {language : PatternLanguage} {setup : Setup α}

/-- An effect whose references resolve locks only choices that are there. -/
theorem resolving_change {e : Effect α} (he : e.Resolves setup.story) {s s' : State α}
    (hs : (resolving language setup).state s) (h : Effect.Change setup.story s e s') :
    (resolving language setup).state s' := by
  obtain ⟨hnode, hlocks⟩ := hs
  cases h with
  | unlocked =>
    refine ⟨hnode, hlocks.put fun index hindex => .inl ?_⟩
    exact (List.mem_filter.1 hindex).1
  | locked =>
    refine ⟨hnode, hlocks.put fun index hindex => ?_⟩
    split at hindex
    · exact .inl hindex
    · rcases List.mem_append.1 hindex with hold | hnew
      · exact .inl hold
      · cases List.mem_singleton.1 hnew
        exact .inr he
  | _ => exact ⟨hnode, hlocks⟩

omit [Number α] in
theorem resolving_misses {e : Effect α} (he : e.Resolves setup.story) {line : LogLine} :
    ¬ Effect.Misses setup.story e line := by
  intro h
  cases h with
  | added hnone =>
    have he : setup.story.hasItem _ = true := he
    simp [Story.hasItem, hnone] at he
  | removed hnone =>
    have he : setup.story.hasItem _ = true := he
    simp [Story.hasItem, hnone] at he
  | stat hnone =>
    have he : setup.story.hasStat _ = true := he
    simp [Story.hasStat, hnone] at he

/-- The standard scorer refuses no pattern that the language has. -/
theorem standard_scored {p : Puzzle α} (hp : p.task.Compiles language) (answer : Datum α) :
    ∀ line ∈ (Scorer.standard language p answer).2, ∀ id message,
      line ≠ .patternInvalid id message := by
  have hlines : ∀ score lines, p.score language answer = .ok (score, lines) → lines = [] := by
    intro score lines h
    unfold Puzzle.score at h
    split at h
    case h_3 pattern flags htask =>
      obtain ⟨test, htest⟩ := hp pattern flags htask
      unfold Puzzle.scoreRegex at h
      rw [htest] at h
      split at h <;> cases h <;> rfl
    case h_4 key tolerance htask =>
      cases hscore : Puzzle.scoreNumeric key tolerance answer <;> rw [hscore] at h <;> cases h
      rfl
    case h_6 blanks shuffle partialScoring htask =>
      cases hscore : Puzzle.scoreCloze blanks partialScoring answer <;> rw [hscore] at h <;> cases h
      rfl
    all_goals
      cases h
      rfl
  intro line hline
  unfold Scorer.standard at hline
  split at hline
  · next score lines h =>
    rw [hlines score lines h] at hline
    cases hline
  · cases hline

/-- What a sound story grants. -/
theorem resolving_upheld (hsound : setup.story.Sound language)
    (htables : setup.story.VariantsAreTables) : (resolving language setup).Upheld setup where
  current s hs := hs.1
  moved s n _ htarget hs := by
    refine ⟨htarget, ?_⟩
    intro entry hentry
    exact hs.2 entry (s.lockedChoices_visit n.id ▸ hentry)
  entry n hn := (hsound.node n hn).entry
  choice n hn c hc := ⟨((hsound.node n hn).choice c hc).next, ((hsound.node n hn).choice c hc).effects⟩
  base n hn p hp := (hsound.node n hn).puzzle p hp
  variant n hn p hp v hv q hq := by
    obtain ⟨q', hq', -, hresolves⟩ := (hsound.node n hn).variant p hp v hv (htables n hn p hp v hv)
    cases hq.symm.trans hq'
    exact ⟨hresolves.outcome, hresolves.pattern⟩
  outcome p hp success o ho := ⟨(hp.outcome success o ho).effects, (hp.outcome success o ho).next⟩
  payment p hp cost hcost := by
    intro e he
    cases List.mem_singleton.1 he
    trivial
  applied effects heffects := by
    refine Invariant.applied ?_ ?_ fun e he => ?_
    · exact ⟨rfl, fun _ _ _ => by rintro ⟨⟩⟩
    · exact ⟨rfl, fun _ _ _ => by rintro ⟨⟩⟩
    · have hresolves := heffects e he
      refine ⟨fun s s' hs hchange => resolving_change hresolves hs hchange, ?_, ?_⟩
      · exact fun line hmiss => absurd hmiss (resolving_misses hresolves)
      · rintro target rfl
        exact hresolves
  sound line hline hscorer := ⟨hline, fun _ id message => hscorer _⟩
  scored p hp n answer line hline := by
    refine ⟨rfl, fun hstandard id message h => ?_⟩
    rw [hstandard n] at hline
    cases h
    exact standard_scored hp.pattern answer _ hline id message rfl
  nodeMissing id hid hnone := absurd hnone (Story.node?_ne_none hid)
  entryJump id target htarget hnone := absurd hnone (Story.node?_ne_none htarget)
  choiceJump index id target next htarget hnone := absurd hnone (Story.node?_ne_none htarget)
  variantInvalid n hn p hp v hv problems hbad := by
    obtain ⟨q, hq, -⟩ := (hsound.node n hn).variant p hp v hv (htables n hn p hp v hv)
    cases hbad.symm.trans hq
  variantRenames n hn p hp v hv q hq hid := by
    obtain ⟨q', hq', hkeeps, -⟩ := (hsound.node n hn).variant p hp v hv (htables n hn p hp v hv)
    cases hq.symm.trans hq'
    exact absurd hkeeps hid

theorem resolving_bears : (resolving language setup).Bears := fun _ _ _ hs => hs

/-- A game starts at a node of the story. -/
theorem resolving_initial (hsound : setup.story.Sound language) (hstart : setup.StartResolves)
    (draws : Feed α) (clock : Feed Int) :
    (resolving language setup).Stands (setup.newGame none draws clock) := by
  refine ⟨⟨?_, by simp [Setup.newGame, Setup.initialState, State.initial, State.LocksResolve]⟩,
    by rintro q ⟨⟩⟩
  obtain ⟨n, hfirst, hn⟩ : ∃ n, setup.story.firstNode? = some n ∧ n ∈ setup.story.nodes := by
    unfold Story.firstNode?
    cases hnodes : setup.story.nodes with
    | nil => exact absurd hnodes hsound.nodes
    | cons n rest => exact ⟨n, rfl, List.mem_cons_self⟩
  have hfirst' := Story.hasNode_of_mem hn
  show setup.story.hasNode (State.initial setup.story setup.config.startNode).currentNode = true
  unfold State.initial
  rw [hfirst]
  dsimp only
  split
  · exact hfirst'
  · exact hfirst'
  · next id hempty hid =>
    rcases hstart id hid with rfl | hnode
    · exact absurd rfl hempty
    · exact hnode

/-! ## Runs -/

/-- Nothing that a story refers to was missing while it was played. -/
structure Setup.PlaysWhole (language : PatternLanguage) (setup : Setup α)
    (played : List (Turn α) × Game α) : Prop where
  current : (played.2.currentNode? setup).isSome = true
  locks : played.2.state.LocksResolve setup.story
  lines : ∀ turn ∈ played.1, ∀ line, Note.log line ∈ turn.notes → line.isDangling = false ∧
    ((∀ n, setup.scorer.value n = Scorer.standard language) →
      ∀ id message, line ≠ .ofScorer (.patternInvalid id message))
  targets : ∀ turn ∈ played.1, ∀ r, turn.reply = .ok (.chosen r) →
    ∀ id, r.error ≠ some ("Node not found: " ++ id)

theorem Story.Sound.plays_whole (hsound : setup.story.Sound language)
    (htables : setup.story.VariantsAreTables) (hstart : setup.StartResolves) (draws : Feed α)
    (clock : Feed Int) (moves : List (Move α)) :
    setup.PlaysWhole language ((setup.newGame none draws clock).play setup moves) := by
  obtain ⟨hstands, hturns⟩ := (resolving_upheld hsound htables).play resolving_bears moves _
    (resolving_initial hsound hstart draws clock)
  refine ⟨hstands.state.1, hstands.state.2, fun turn hturn => (hturns turn hturn).1,
    fun turn hturn r hr id hid => ?_⟩
  obtain ⟨target, htarget, hnone⟩ := (hturns turn hturn).2 r hr id hid
  exact Story.node?_ne_none htarget hnone

/-- Nothing that a valid story refers to is missing while it is played: there is always a current node,
every lock is that of a choice, no line tells of something that is not there, the standard scorer
refuses no pattern, and no choice leads to no node. -/
theorem play_resolves [FaithfulNumber α] (hvalid : setup.story.Valid language)
    (htables : setup.story.VariantsAreTables) (hstart : setup.StartResolves) (draws : Feed α)
    (clock : Feed Int) (moves : List (Move α)) :
    let played := (setup.newGame none draws clock).play setup moves
    (played.2.currentNode? setup).isSome = true ∧ played.2.state.LocksResolve setup.story ∧
    ∀ turn ∈ played.1,
      (∀ line, Note.log line ∈ turn.notes → line.isDangling = false ∧
        ((∀ n, setup.scorer.value n = Scorer.standard language) →
          ∀ id message, line ≠ .ofScorer (.patternInvalid id message))) ∧
      ∀ r, turn.reply = .ok (.chosen r) → ∀ id, r.error ≠ some ("Node not found: " ++ id) := by
  have hwhole := hvalid.sound.plays_whole htables hstart draws clock moves
  exact ⟨hwhole.current, hwhole.locks,
    fun turn hturn => ⟨hwhole.lines turn hturn, hwhole.targets turn hturn⟩⟩

/-- A story that was read from a document with no key twice in a table has tables for variants. -/
theorem read_plays_whole [FaithfulNumber α] {d : Datum α} (htidy : d.Tidy)
    (hread : Story.read d = .ok setup.story) (hvalid : setup.story.Valid language)
    (hstart : setup.StartResolves) (draws : Feed α) (clock : Feed Int) (moves : List (Move α)) :
    setup.PlaysWhole language ((setup.newGame none draws clock).play setup moves) :=
  hvalid.sound.plays_whole (Story.variantsAreTables_of_read htidy hread) hstart draws clock moves

theorem riddle_resolves :
    let played := (Setup.riddle.newGame none (.always (.int 0)) (.always 0)).play Setup.riddle
      [.start, .solve (.list [.whole 1]) none, .look]
    (played.2.currentNode? Setup.riddle).isSome = true ∧
    ∀ turn ∈ played.1, ∀ line, Note.log line ∈ turn.notes → line.isDangling = false := by
  have htables : Story.riddle.VariantsAreTables := by
    simp [Story.VariantsAreTables, Puzzle.VariantsAreTables, Story.riddle, Puzzle.riddle, Table.keys]
  have hstart : Setup.riddle.StartResolves := by rintro id ⟨⟩
  obtain ⟨hnode, -, hturns⟩ := play_resolves Story.riddle_valid htables hstart
    (.always (.int 0)) (.always 0) [.start, .solve (.list [.whole 1]) none, .look]
  exact ⟨hnode, fun turn hturn line hline => ((hturns turn hturn).1 line hline).1⟩

end StoryRules
