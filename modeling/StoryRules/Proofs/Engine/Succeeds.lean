import StoryRules.Engine.Moves
import StoryRules.Proofs.Effect.Succeeds
import StoryRules.Proofs.Engine.Choices
import StoryRules.Proofs.Engine.Entry

/-!
# Play meets no fault

What can stop a move is arithmetic, a number too long for a message, an answer that cannot be kept, and a
hint that is not there.  So with a story whose amounts can be added and drawn from, and whose numbers can be
written, nodes are entered and choices are taken without a fault from every state whose numbers can be
written, unless they lead to a state with a number that cannot.

    setup.story.AmountsIn Addable Drawable → (short → setup.story.Legible) →
      Succeeds (Game.Legible short setup.story) (enter setup left id)      (enter_succeeds)
-/

namespace StoryRules

variable {α : Type}

/-! ## The amounts of a story -/

/-- A puzzle that may be in play: that of a node, or one that a variant of it makes. -/
def Story.MayPlay [Number α] (s : Story α) (q : Puzzle α) : Prop :=
  ∃ n ∈ s.nodes, ∃ p, n.puzzle = some p ∧
    (q = p ∨ ∃ v ∈ p.variants, ∃ made, p.withVariant v = .ok made ∧ q = { made with id := p.id })

variable [Number α]

/-- What is asked of every amount that a story adds, and of the weights that it draws from. -/
structure Story.AmountsIn (s : Story α) (value : α → Prop) (weights : List α → Prop) : Prop where
  entry : ∀ n ∈ s.nodes, Effect.AllAmountsIn value weights n.onEnterEffects
  choice : ∀ n ∈ s.nodes, ∀ c ∈ n.choices, Effect.AllAmountsIn value weights c.effects
  variants : ∀ n ∈ s.nodes, ∀ p, n.puzzle = some p → weights (p.variants.map Weighted.weight)
  outcome : ∀ q, s.MayPlay q → ∀ success o, q.outcome? success = some o →
    Effect.AllAmountsIn value weights o.effects
  payment : ∀ q, s.MayPlay q → ∀ cost, q.dynamic.bind Dynamic.hintCost = some cost →
    value (Number.neg cost.value)

theorem Story.AmountsIn.mono {s : Story α} {value value' : α → Prop} {weights weights' : List α → Prop}
    (hvalue : ∀ v, value v → value' v) (hweights : ∀ ws, weights ws → weights' ws)
    (h : s.AmountsIn value weights) : s.AmountsIn value' weights' where
  entry n hn := (h.entry n hn).mono hvalue hweights
  choice n hn c hc := (h.choice n hn c hc).mono hvalue hweights
  variants n hn p hp := hweights _ (h.variants n hn p hp)
  outcome q hq success o ho := (h.outcome q hq success o ho).mono hvalue hweights
  payment q hq cost hcost := hvalue _ (h.payment q hq cost hcost)

/-- The amounts of a story do what all amounts do. -/
theorem Story.amountsIn_of_forall (s : Story α) {value : α → Prop} {weights : List α → Prop}
    (hvalue : ∀ v, value v) (hweights : ∀ ws, weights ws) : s.AmountsIn value weights := by
  have hall : ∀ effects : List (Effect α), Effect.AllAmountsIn value weights effects := by
    intro effects e _
    cases e with
    | addCurrency currency v => exact hvalue v
    | addStat stat v => exact hvalue v
    | lootTable table => exact hweights _
    | _ => trivial
  exact ⟨fun _ _ => hall _, fun _ _ _ _ => hall _, fun _ _ _ _ => hweights _, fun _ _ _ _ _ => hall _,
    fun _ _ _ _ => hvalue _⟩

/-- The whole numbers that the effects of a story name can be written. -/
structure Story.Legible (s : Story α) : Prop where
  entry : ∀ n ∈ s.nodes, Effect.AllLegible n.onEnterEffects
  choice : ∀ n ∈ s.nodes, ∀ c ∈ n.choices, Effect.AllLegible c.effects
  outcome : ∀ q, s.MayPlay q → ∀ success o, q.outcome? success = some o → Effect.AllLegible o.effects

theorem Story.legible [LegibleNumber α] (s : Story α) : s.Legible :=
  ⟨fun _ _ => Effect.allLegible _, fun _ _ _ _ => Effect.allLegible _,
    fun _ _ _ _ _ => Effect.allLegible _⟩

/-- The numbers in the state of a game can be written, and so can those that `short` is about. -/
structure Game.Legible (short : Prop) (story : Story α) (g : Game α) : Prop where
  short : short
  state : g.state.Legible story

namespace Play

/-! ## Notes -/

variable {story : Story α} {short : Prop}

section

theorem log_succeeds (line : LogLine) : Succeeds (Game.Legible short story) (log line : Play α Unit) :=
  Succeeds.update fun _ hg => ⟨hg.short, hg.state⟩

theorem logAll_succeeds (lines : List LogLine) :
    Succeeds (Game.Legible short story) (logAll lines : Play α Unit) := by
  unfold logAll
  exact Succeeds.update fun _ hg => ⟨hg.short, hg.state⟩

theorem emit_succeeds (e : Event α) : Succeeds (Game.Legible short story) (emit e) :=
  Succeeds.update fun _ hg => ⟨hg.short, hg.state⟩

theorem state_succeeds : Succeeds (Game.Legible short story) (state : Play α (State α)) :=
  Succeeds.read fun _ => .pure _

theorem emitState_succeeds : Succeeds (Game.Legible short story) (emitState : Play α Unit) :=
  state_succeeds.bind fun _ => emit_succeeds _

theorem setProgress_succeeds (puzzle : String) (f : Progress α → Progress α) :
    Succeeds (Game.Legible short story) (setProgress puzzle f) :=
  Succeeds.update fun _ hg => ⟨hg.short, hg.state.item, hg.state.currency, hg.state.stat⟩

theorem openProgress_succeeds (puzzle : String) :
    Succeeds (Game.Legible short story) (openProgress puzzle : Play α (Progress α)) := by
  unfold openProgress
  refine Succeeds.bind (Succeeds.update fun g hg => ?_) fun _ => state_succeeds.bind fun _ => .pure _
  exact ⟨hg.short, hg.state.openProgress puzzle⟩

end

/-! ## Effects and draws -/

variable {setup : Setup α}

theorem applyEffects_succeeds {effects : List (Effect α)}
    (h : Effect.AllAmountsIn Number.Addable Draw.Drawable effects)
    (hlegible : short → Effect.AllLegible effects) :
    Succeeds (Game.Legible short setup.story) (applyEffects setup effects) := by
  intro g
  unfold SucceedsFrom
  rw [applyEffects_run]
  obtain ⟨report, scene, hrun, hscene⟩ | ⟨scene, hrun, hscene⟩ :=
    Effect.applyAll_succeeds setup.story h hlegible g.scene
  · rw [hrun]
    refine .inl ⟨report, _, rfl, fun hg => ?_⟩
    exact ⟨hg.short, (hscene ⟨hg.short, hg.state⟩).state⟩
  · rw [hrun]
    exact .inr ⟨_, rfl, fun hg hafter => hscene ⟨hg.short, hg.state⟩ ⟨hg.short, hafter.state⟩⟩

theorem applyAny_succeeds {effects : List (Effect α)}
    (h : Effect.AllAmountsIn Number.Addable Draw.Drawable effects)
    (hlegible : short → Effect.AllLegible effects) :
    Succeeds (Game.Legible short setup.story) (applyAny setup effects) := by
  unfold applyAny
  split
  · exact Succeeds.pure none
  · exact (applyEffects_succeeds h hlegible).map

theorem draw_succeeds {weights : List α} (h : Draw.Drawable weights) :
    Succeeds (Game.Legible short setup.story) (draw weights) := by
  exact Succeeds.seeing fun g =>
    Succeeds.replacing (fun hg => ⟨hg.short, hg.state⟩) (.lift (h g.draws))

theorem drawVariant_succeeds {p : Puzzle α}
    (h : Draw.Drawable (p.variants.map Weighted.weight)) :
    Succeeds (Game.Legible short setup.story) (drawVariant p) := by
  unfold drawVariant
  split
  · exact Succeeds.pure p
  · refine (draw_succeeds h).bind fun drawn => ?_
    cases drawn with
    | none => exact Succeeds.pure p
    | some i =>
      dsimp only
      split
      · exact Succeeds.pure p
      · split
        · exact (log_succeeds _).bind fun _ => .pure p
        · split
          · exact Succeeds.pure _
          · exact (log_succeeds _).bind fun _ => .pure _

/-! ## Entering nodes -/

variable (hstory : setup.story.AmountsIn Number.Addable Draw.Drawable)
  (hlegible : short → setup.story.Legible)

include hstory hlegible

omit hlegible in
theorem arrive_succeeds {n : Node α} (hn : n ∈ setup.story.nodes) :
    Succeeds (Game.Legible short setup.story) (arrive n) := by
  have hbring : Succeeds (Game.Legible short setup.story) (bringUp n.puzzle) := by
    cases hp : n.puzzle with
    | none => exact Succeeds.pure ()
    | some p =>
      exact (drawVariant_succeeds (hstory.variants n hn p hp)).bind fun q =>
        Succeeds.bind (Succeeds.update fun _ hg => ⟨hg.short, hg.state⟩) fun _ => emit_succeeds _
  unfold arrive
  refine Succeeds.bind (log_succeeds _) fun _ => (emit_succeeds _).bind fun _ => ?_
  refine emitState_succeeds.bind fun _ => ?_
  split
  · exact (emit_succeeds _).bind fun _ => hbring
  · exact hbring

theorem entryTarget_succeeds {n : Node α} (hn : n ∈ setup.story.nodes) :
    Succeeds (Game.Legible short setup.story) (entryTarget setup n) := by
  unfold entryTarget
  split
  · exact Succeeds.pure none
  · exact (applyEffects_succeeds (hstory.entry n hn) fun h => (hlegible h).entry n hn).bind
      fun _ => .pure _

/-- Entering a node meets no fault. -/
theorem enter_succeeds (left : Nat) : ∀ id, Succeeds (Game.Legible short setup.story) (enter setup left id) := by
  induction left using Nat.strongRecOn with
  | ind left ih =>
    intro id
    unfold enter
    split
    · exact (log_succeeds _).bind fun _ => .pure false
    · next n hn =>
      have hn := Story.mem_nodes_of_node? hn
      have hstay : Succeeds (Game.Legible short setup.story) (do arrive n; return true : Play α Bool) :=
        (arrive_succeeds hstory hn).bind fun _ => .pure true
      refine Succeeds.bind (Succeeds.update fun g hg => ?_) fun _ => ?_
      · have hvisit := hg.state.visit n.id
        exact ⟨hg.short, hvisit.item, hvisit.currency, hvisit.stat⟩
      refine (entryTarget_succeeds hstory hlegible hn).bind fun target => ?_
      cases target with
      | none => exact hstay
      | some target =>
        dsimp only
        split
        · exact (log_succeeds _).bind fun _ => hstay
        · cases left with
          | zero => exact (log_succeeds _).bind fun _ => hstay
          | succ left => exact (log_succeeds _).bind fun _ => ih left (Nat.lt_succ_self left) target

theorem enterNode_succeeds (id : String) : Succeeds (Game.Legible short setup.story) (enterNode setup id) :=
  enter_succeeds hstory hlegible _ id

theorem enterAny_succeeds (target : Option String) :
    Succeeds (Game.Legible short setup.story) (enterAny setup target) := by
  cases target with
  | none => exact Succeeds.pure ()
  | some id => exact (enterNode_succeeds hstory hlegible id).bind fun _ => .pure ()

theorem start_succeeds : Succeeds (Game.Legible short setup.story) (start setup) :=
  state_succeeds.bind fun _ => enterNode_succeeds hstory hlegible _

/-! ## Choices -/

omit hstory hlegible in
theorem choices_succeeds : Succeeds (Game.Legible short setup.story) (choices setup) := by
  refine Succeeds.read fun g => ?_
  split
  · exact Succeeds.pure []
  · exact (logAll_succeeds _).bind fun _ => .pure _

omit hstory hlegible in
theorem choiceTarget_succeeds (n : Node α) (index : Nat) (c : Choice α)
    (report : Option EffectReport) :
    Succeeds (Game.Legible short setup.story) (choiceTarget setup n index c report) := by
  unfold choiceTarget
  split
  · exact Succeeds.pure c.next
  · split
    · exact Succeeds.pure _
    · exact (log_succeeds _).bind fun _ => .pure c.next

theorem takeChoice_succeeds {n : Node α} (hn : n ∈ setup.story.nodes) {c : Choice α}
    (hc : c ∈ n.choices) (index : Nat) :
    Succeeds (Game.Legible short setup.story) (takeChoice setup n index c) := by
  unfold takeChoice
  refine (emit_succeeds _).bind fun _ => ?_
  refine (applyAny_succeeds (hstory.choice n hn c hc) fun h => (hlegible h).choice n hn c hc).bind
    fun report => ?_
  refine (choiceTarget_succeeds n index c report).bind fun target => ?_
  refine (enterNode_succeeds hstory hlegible target).bind fun entered => ?_
  refine state_succeeds.bind fun s => ?_
  cases entered <;> exact Succeeds.pure _

theorem choose_succeeds {index : Int} (hindex : short → Number.Legible (Number.whole index : α)) :
    Succeeds (Game.Legible short setup.story) (choose setup index) := by
  refine Succeeds.read fun g => ?_
  split
  · exact Succeeds.pure _
  · next n hn =>
    have hn := Story.mem_nodes_of_node? hn
    split
    · refine ((Effect.Written.whole index).succeeds fun _ hg => hindex hg.short).bind fun _ => ?_
      exact (log_succeeds _).bind fun _ => .pure _
    · next c hc =>
      have hc := mem_of_choiceAt? hc
      refine choices_succeeds.bind fun _ => state_succeeds.bind fun s => ?_
      dsimp only
      split
      · exact takeChoice_succeeds hstory hlegible hn hc _
      · split <;> exact (log_succeeds _).bind fun _ => .pure _

/-! ## Answers -/

omit hstory hlegible in
theorem record_succeeds (p : Puzzle α) {answer : Datum α} (hanswer : ∃ plain, answer.plain = .ok plain)
    (timeMs : Option Int) (score : Score α) :
    Succeeds (Game.Legible short setup.story) (record p answer timeMs score) :=
  (setProgress_succeeds _ _).bind fun _ =>
    (Succeeds.lift hanswer).bind fun _ => setProgress_succeeds _ _

omit hstory hlegible in
theorem resolve_succeeds (p : Puzzle α) (score : Score α) :
    Succeeds (Game.Legible short setup.story) (resolve p score) := by
  have hnow : Succeeds (Game.Legible short setup.story) (now : Play α Int) :=
    Succeeds.seeing fun g => Succeeds.replacing (fun hg => ⟨hg.short, hg.state⟩) (.pure _)
  unfold resolve
  split
  · exact (setProgress_succeeds _ _).bind fun _ =>
      hnow.bind fun _ => (setProgress_succeeds _ _).bind fun _ => .pure _
  · exact state_succeeds.bind fun _ => .pure _

omit hstory hlegible in
theorem score_succeeds (p : Puzzle α) (answer : Datum α) :
    Succeeds (Game.Legible short setup.story) (Play.score setup p answer) := by
  exact Succeeds.seeing fun g => Succeeds.replacing (fun hg => ⟨hg.short, hg.state⟩)
    ((logAll_succeeds _).bind fun _ => .pure _)

omit hstory hlegible in
/-- Judging meets no fault, whatever the scorer says. -/
theorem judge_succeeds {answer : Datum α} (hanswer : ∃ plain, answer.plain = .ok plain)
    (timeMs : Option Int) : Succeeds (Game.Legible short setup.story) (judge setup answer timeMs) := by
  refine Succeeds.read fun g => ?_
  split
  · exact (log_succeeds _).bind fun _ => .pure _
  · next p _ =>
    refine (openProgress_succeeds _).bind fun r => ?_
    unfold assess
    split
    · exact state_succeeds.bind fun _ => .pure _
    · split
      · exact Succeeds.pure _
      · refine (score_succeeds p answer).bind fun result => ?_
        split
        · exact (log_succeeds _).bind fun _ => .pure _
        · exact (record_succeeds p hanswer _ _).bind fun _ =>
            (resolve_succeeds p _).bind fun _ => .pure _

theorem settle_succeeds {p : Puzzle α} (hp : setup.story.MayPlay p) (score : Score α)
    (resolved : Option Bool) : Succeeds (Game.Legible short setup.story) (settle setup p score resolved) := by
  have hfollow : Succeeds (Game.Legible short setup.story) (applyOutcome setup (resolved.bind p.outcome?)) := by
    cases ho : resolved.bind p.outcome? with
    | none => exact Succeeds.pure none
    | some o =>
      obtain ⟨success, -, ho⟩ := Option.bind_eq_some_iff.1 ho
      exact applyAny_succeeds (hstory.outcome p hp success o ho) fun h =>
        (hlegible h).outcome p hp success o ho
  unfold settle
  refine hfollow.bind fun report => (emit_succeeds _).bind fun _ => emitState_succeeds.bind fun _ => ?_
  exact (enterAny_succeeds hstory hlegible _).bind fun _ => state_succeeds.bind fun _ => .pure _

/-! ## Hints -/

omit hlegible in
theorem payHint_succeeds {p : Puzzle α} (hp : setup.story.MayPlay p) :
    Succeeds (Game.Legible short setup.story) (payHint setup p) := by
  unfold payHint
  split
  · exact Succeeds.pure true
  · next cost hcost =>
    refine state_succeeds.bind fun s => ?_
    split
    · exact (log_succeeds _).bind fun _ => .pure false
    · refine (applyEffects_succeeds (fun e he => ?_) fun _ e he => ?_).bind fun _ => .pure true
      all_goals
        simp only [Effect.walk, Effect.walkOne, List.append_nil, List.mem_singleton] at he
        subst he
      · exact hstory.payment p hp cost hcost
      · trivial

end Play

end StoryRules
