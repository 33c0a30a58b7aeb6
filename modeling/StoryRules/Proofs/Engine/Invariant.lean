import StoryRules.Engine.Moves
import StoryRules.Proofs.Effect.Keeps
import StoryRules.Proofs.Engine.Choices
import StoryRules.Proofs.Story

/-!
# Invariants of play

An invariant of play is given by what it says of states, of puzzles in play, of effects that are
applied, of nodes that are entered and of lines that are logged.  `Upheld` lists what a story and its
settings have to grant for it; then entering nodes and taking choices keep it, and if it also bears
with the progress on puzzles, so does every move, in runs of any length.

    I.Upheld setup → I.Bears setup → I.Stands g → I.Stands (g.play setup moves).2      (Upheld.play)
-/

namespace StoryRules

variable {α : Type}

/-- Lines that tell of something that is not there. -/
def LogLine.isDangling : LogLine → Bool
  | .itemMissing _ | .statMissing _ | .nodeMissing _ | .entryJumpMissing .. => true
  | .choiceJumpMissing .. | .variantInvalid _ | .variantRenames .. => true
  | _ => false

/-- What an invariant says of the parts of play. -/
structure Invariant (α : Type) where
  state : State α → Prop
  /-- Of the puzzles in play. -/
  puzzle : Puzzle α → Prop
  /-- Of the lists of effects that are applied. -/
  effects : List (Effect α) → Prop
  /-- Of the ids of nodes that are to be entered. -/
  target : String → Prop
  line : LogLine → Prop

namespace Invariant

/-- Between moves. -/
structure Stands (I : Invariant α) (g : Game α) : Prop where
  state : I.state g.state
  active : ∀ q, g.active = some q → I.puzzle q

/-- During a move. -/
structure Holds (I : Invariant α) (g : Game α) : Prop extends I.Stands g where
  lines : ∀ line, Note.log line ∈ g.notes → I.line line

/-- While effects are applied. -/
structure HoldsIn (I : Invariant α) (scene : Scene α) : Prop where
  state : I.state scene.state
  lines : ∀ line ∈ scene.log, I.line line

/-- Of the jump that a report asks for. -/
def jump (I : Invariant α) (report : EffectReport) : Prop :=
  ∀ target, report.goto = some target → I.target target

variable {I : Invariant α} {setup : Setup α}

/-! ## Notes and changes -/

theorem Holds.noted {g : Game α} (h : I.Holds g) {notes : List (Note α)}
    (hn : ∀ line, Note.log line ∈ notes → I.line line) :
    I.Holds { g with notes := g.notes ++ notes } := by
  refine ⟨⟨h.state, h.active⟩, fun line hline => ?_⟩
  rcases List.mem_append.1 hline with hline | hline
  · exact h.lines line hline
  · exact hn line hline

theorem note_keeps {n : Note α} (h : ∀ line, n = .log line → I.line line) :
    Keeps I.Holds (Play.note n) fun _ => True :=
  Keeps.update fun _ hg => hg.noted fun line hline => h line (List.mem_singleton.1 hline).symm

theorem log_keeps {line : LogLine} (h : I.line line) :
    Keeps I.Holds (Play.log line) fun _ => True :=
  note_keeps fun l hl => by cases hl; exact h

theorem emit_keeps (e : Event α) : Keeps I.Holds (Play.emit e) fun _ => True :=
  note_keeps fun l hl => by cases hl

theorem logAll_keeps {lines : List LogLine} (h : ∀ line ∈ lines, I.line line) :
    Keeps I.Holds (Play.logAll lines) fun _ => True := by
  refine Keeps.update fun g hg => hg.noted fun line hline => ?_
  obtain ⟨l, hl, e⟩ := List.mem_map.1 hline
  cases e
  exact h _ hl

theorem change_keeps {f : State α → State α} (h : ∀ s, I.state s → I.state (f s)) :
    Keeps I.Holds (Play.change f) fun _ => True :=
  Keeps.update fun _ hg => ⟨⟨h _ hg.state, hg.active⟩, hg.lines⟩

theorem get_keeps : Keeps I.Holds (get : Play α (Game α)) I.Stands :=
  Keeps.get.mono fun _ hg => hg.toStands

theorem state_keeps : Keeps I.Holds Play.state I.state := by
  unfold Play.state
  exact get_keeps.bind fun g hg => Keeps.pure hg.state

theorem emitState_keeps : Keeps I.Holds (Play.emitState (α := α)) fun _ => True := by
  unfold Play.emitState
  exact state_keeps.bind fun s _ => emit_keeps _

theorem now_keeps : Keeps I.Holds (Play.now (α := α)) fun _ => True := by
  unfold Play.now
  refine Keeps.bind Keeps.get fun g hg => ?_
  refine Keeps.bind (Keeps.set ⟨⟨hg.state, hg.active⟩, hg.lines⟩) fun _ _ => ?_
  exact Keeps.pure trivial

/-! ## Progress -/

/-- An invariant bears with hints. -/
structure Hinted (I : Invariant α) : Prop where
  opened : ∀ s puzzle, I.state s → I.state (s.openProgress puzzle)
  shown : ∀ s puzzle, I.state s →
    I.state (s.setProgress puzzle
      { s.progress puzzle with hintsUsed := (s.progress puzzle).hintsUsed + 1 })

namespace Hinted

variable (hinted : I.Hinted)

include hinted

theorem openProgress (puzzle : String) :
    Keeps I.Holds (Play.openProgress (α := α) puzzle) fun _ => True := by
  unfold Play.openProgress
  refine Keeps.bind (change_keeps fun s hs => hinted.opened s puzzle hs) fun _ _ => ?_
  exact Keeps.bind state_keeps fun _ _ => Keeps.pure trivial

theorem showHint (p : Puzzle α) (used : Int) :
    Keeps I.Holds (Play.showHint p used) fun _ => True := by
  unfold Play.showHint
  split
  · exact Keeps.throw
  · refine Keeps.bind (change_keeps fun s hs => hinted.shown s p.id hs) fun _ _ => ?_
    exact Keeps.bind emitState_keeps fun _ _ => Keeps.pure trivial

end Hinted

/-- An invariant bears with all progress on puzzles. -/
def Bears (I : Invariant α) : Prop :=
  ∀ s puzzle p, I.state s → I.state (s.setProgress puzzle p)

namespace Bears

variable (bears : I.Bears)

include bears

theorem hinted : I.Hinted where
  opened s puzzle hs := by
    unfold State.openProgress
    split
    · exact hs
    · exact bears s puzzle {} hs
  shown s puzzle hs := bears s puzzle _ hs

theorem setProgress (puzzle : String) (f : Progress α → Progress α) :
    Keeps I.Holds (Play.setProgress puzzle f) fun _ => True :=
  change_keeps fun s hs => bears s puzzle _ hs

theorem record (p : Puzzle α) (answer : Datum α) (timeMs : Option Int) (score : Score α) :
    Keeps I.Holds (Play.record p answer timeMs score) fun _ => True := by
  unfold Play.record
  refine Keeps.bind (bears.setProgress _ _) fun _ _ => ?_
  refine Keeps.bind (Keeps.lift fun _ _ => trivial) fun plain _ => ?_
  exact bears.setProgress _ _

theorem resolve (p : Puzzle α) (score : Score α) :
    Keeps I.Holds (Play.resolve p score) fun _ => True := by
  unfold Play.resolve
  split
  · refine Keeps.bind (bears.setProgress _ _) fun _ _ => ?_
    refine Keeps.bind now_keeps fun time _ => ?_
    exact Keeps.bind (bears.setProgress _ _) fun _ _ => Keeps.pure trivial
  · exact Keeps.bind state_keeps fun s _ => Keeps.pure trivial

end Bears

/-! ## Draws -/

variable [Number α]

theorem draw_keeps (weights : List α) : Keeps I.Holds (Play.draw weights) fun _ => True := by
  unfold Play.draw
  refine Keeps.bind Keeps.get fun g hg => ?_
  refine Keeps.bind (Keeps.set ⟨⟨hg.state, hg.active⟩, hg.lines⟩) fun _ _ => ?_
  exact Keeps.lift fun _ _ => trivial

/-! ## Effects -/

omit [Number α] in
theorem lists (hempty : I.line .lootEmpty) (hweightless : I.line .lootWeightless) :
    Effect.Lists I.HoldsIn I.jump where
  drawn _ _ h := ⟨h.state, h.lines⟩
  timed _ _ h := ⟨h.state, h.lines⟩
  noted scene line h hline := by
    refine ⟨h.state, fun l hl => ?_⟩
    rcases List.mem_append.1 hl with hl | hl
    · exact h.lines l hl
    · cases List.mem_singleton.1 hl
      rcases hline with rfl | rfl
      · exact hempty
      · exact hweightless
  silent report h := by
    intro target htarget
    cases h.symm.trans htarget
  absorb a b ha hb := by
    intro target htarget
    unfold EffectReport.absorb at htarget
    split at htarget
    · next early late hearly hlate => exact ha target (hearly.trans htarget)
    · exact hb target htarget
    · exact ha target htarget

/-- What an effect has to grant. -/
structure Admits (I : Invariant α) (story : Story α) (e : Effect α) : Prop where
  change : ∀ s s', I.state s → Effect.Change story s e s' → I.state s'
  misses : ∀ line, Effect.Misses story e line → I.line line
  jumps : ∀ target, e = .goto target → I.target target

/-- Effects that grant an invariant what it needs, nested ones included, keep it. -/
theorem applied {story : Story α} (hempty : I.line .lootEmpty) (hweightless : I.line .lootWeightless)
    {effects : List (Effect α)} (h : ∀ e ∈ Effect.walk effects, I.Admits story e) :
    Keeps I.HoldsIn (Effect.applyAll story effects) I.jump := by
  refine (lists hempty hweightless).applyAll fun e he => ?_
  have admits := h e he
  refine ⟨fun scene s hs hchange => ?_, fun scene line hs hmiss => ?_, fun target htarget => ?_⟩
  · exact ⟨admits.change _ _ hs.state hchange, hs.lines⟩
  · refine ⟨hs.state, fun l hl => ?_⟩
    rcases List.mem_append.1 hl with hl | hl
    · exact hs.lines l hl
    · cases List.mem_singleton.1 hl
      exact admits.misses line hmiss
  · rintro report hreport t ht
    cases hreport.symm.trans ht
    exact admits.jumps target htarget

/-! ## What is granted -/

/-- What a story and its settings grant an invariant. -/
structure Upheld (I : Invariant α) (setup : Setup α) : Prop where
  current : ∀ s, I.state s → I.target s.currentNode
  moved : ∀ s, ∀ n ∈ setup.story.nodes, I.target n.id → I.state s →
    I.state { s.visit n.id with currentNode := n.id }
  entry : ∀ n ∈ setup.story.nodes, I.effects n.onEnterEffects
  choice : ∀ n ∈ setup.story.nodes, ∀ c ∈ n.choices, I.target c.next ∧ I.effects c.effects
  base : ∀ n ∈ setup.story.nodes, ∀ p, n.puzzle = some p → I.puzzle p
  variant : ∀ n ∈ setup.story.nodes, ∀ p, n.puzzle = some p → ∀ v ∈ p.variants,
    ∀ q, p.withVariant v = .ok q → I.puzzle { q with id := p.id }
  outcome : ∀ p, I.puzzle p → ∀ success o, p.outcome? success = some o →
    I.effects o.effects ∧ ∀ target, o.next = some target → I.target target
  payment : ∀ p, I.puzzle p → ∀ cost, p.dynamic.bind Dynamic.hintCost = some cost →
    I.effects [.addCurrency cost.currency (Number.neg cost.value)]
  applied : ∀ effects, I.effects effects →
    Keeps I.HoldsIn (Effect.applyAll setup.story effects) I.jump
  sound : ∀ line, line.isDangling = false → (∀ l, line ≠ .ofScorer l) → I.line line
  scored : ∀ p, I.puzzle p → ∀ n answer, ∀ line ∈ (setup.scorer.value n p answer).2,
    I.line (.ofScorer line)
  nodeMissing : ∀ id, I.target id → setup.story.node? id = none → I.line (.nodeMissing id)
  entryJump : ∀ id target, I.target target → setup.story.node? target = none →
    I.line (.entryJumpMissing id target)
  choiceJump : ∀ index id target next, I.target target → setup.story.node? target = none →
    I.line (.choiceJumpMissing index id target next)
  variantInvalid : ∀ n ∈ setup.story.nodes, ∀ p, n.puzzle = some p → ∀ v ∈ p.variants,
    ∀ problems, p.withVariant v = .bad problems → I.line (.variantInvalid p.id)
  variantRenames : ∀ n ∈ setup.story.nodes, ∀ p, n.puzzle = some p → ∀ v ∈ p.variants,
    ∀ q, p.withVariant v = .ok q → q.id ≠ p.id → I.line (.variantRenames p.id q.id)

/-! ## Entering nodes -/

namespace Upheld

variable (up : I.Upheld setup)

include up

theorem log {line : LogLine} (h : line.isDangling = false := by rfl)
    (h' : ∀ l, line ≠ .ofScorer l := by rintro _ ⟨⟩) :
    Keeps I.Holds (Play.log (α := α) line) fun _ => True :=
  log_keeps (up.sound line h h')

theorem applyEffects {effects : List (Effect α)} (h : I.effects effects) :
    Keeps I.Holds (Play.applyEffects setup effects) I.jump := by
  unfold Play.applyEffects
  refine Keeps.bind Keeps.get fun g hg => ?_
  have hscene : I.HoldsIn { state := g.state, draws := g.draws, clock := g.clock } :=
    ⟨hg.state, by simp⟩
  obtain ⟨hafter, hjump⟩ := up.applied effects h _ hscene
  refine Keeps.bind (Keeps.set ⟨⟨hafter.state, hg.active⟩, hg.lines⟩) fun _ _ => ?_
  refine Keeps.bind (logAll_keeps hafter.lines) fun _ _ => ?_
  refine Keeps.bind (Keeps.lift hjump) fun report hreport => ?_
  exact Keeps.bind (emit_keeps _) fun _ _ => Keeps.pure hreport

theorem applyAny {effects : List (Effect α)} (h : I.effects effects) :
    Keeps I.Holds (Play.applyAny setup effects) fun report => ∀ r, report = some r → I.jump r := by
  unfold Play.applyAny
  split
  · exact Keeps.pure (by rintro r ⟨⟩)
  · refine (up.applyEffects h).map fun report hreport => ?_
    rintro r ⟨⟩
    exact hreport

theorem drawVariant {n : Node α} (hn : n ∈ setup.story.nodes) {p : Puzzle α}
    (hp : n.puzzle = some p) : Keeps I.Holds (Play.drawVariant p) I.puzzle := by
  have hbase := up.base n hn p hp
  unfold Play.drawVariant
  split
  · exact Keeps.pure hbase
  · refine Keeps.bind (draw_keeps _) fun drawn _ => ?_
    cases drawn with
    | none => exact Keeps.pure hbase
    | some i =>
      dsimp only
      split
      · exact Keeps.pure hbase
      · next v hv =>
        have hmem := List.mem_of_getElem? hv
        split
        · next problems hbad =>
          refine Keeps.bind (log_keeps (up.variantInvalid n hn p hp v hmem problems hbad)) ?_
          exact fun _ _ => Keeps.pure hbase
        · next q hq =>
          have hdrawn := up.variant n hn p hp v hmem q hq
          split
          · next hid => exact Keeps.pure (by rwa [← hid] at hdrawn)
          · next hid =>
            refine Keeps.bind (log_keeps (up.variantRenames n hn p hp v hmem q hq hid)) ?_
            exact fun _ _ => Keeps.pure hdrawn

theorem bringUp {n : Node α} (hn : n ∈ setup.story.nodes) :
    Keeps I.Holds (Play.bringUp n.puzzle) fun _ => True := by
  cases hp : n.puzzle with
  | none => exact Keeps.pure trivial
  | some p =>
    refine Keeps.bind (up.drawVariant hn hp) fun q hq => ?_
    refine Keeps.bind (Keeps.update fun g hg => ?_) fun _ _ => emit_keeps _
    refine ⟨⟨hg.state, ?_⟩, hg.lines⟩
    rintro r ⟨⟩
    exact hq

theorem arrive {n : Node α} (hn : n ∈ setup.story.nodes) :
    Keeps I.Holds (Play.arrive n) fun _ => True := by
  have hpuzzle := up.bringUp hn
  unfold Play.arrive
  refine Keeps.bind up.log fun _ _ => ?_
  refine Keeps.bind (emit_keeps _) fun _ _ => ?_
  refine Keeps.bind emitState_keeps fun _ _ => ?_
  by_cases hend : n.isEnding = true
  · rw [if_pos hend]
    exact Keeps.bind (emit_keeps _) fun _ _ => hpuzzle
  · rw [if_neg hend]
    exact hpuzzle

theorem moveTo {n : Node α} (hn : n ∈ setup.story.nodes) (htarget : I.target n.id) :
    Keeps I.Holds (Play.moveTo n) fun _ => True := by
  refine Keeps.update fun g hg => ⟨⟨up.moved _ n hn htarget hg.state, ?_⟩, hg.lines⟩
  rintro q ⟨⟩

theorem entryTarget {n : Node α} (hn : n ∈ setup.story.nodes) :
    Keeps I.Holds (Play.entryTarget setup n) fun t => ∀ target, t = some target → I.target target := by
  unfold Play.entryTarget
  split
  · refine Keeps.pure ?_
    rintro target ⟨⟩
  · exact Keeps.bind (up.applyEffects (up.entry n hn)) fun report hreport => Keeps.pure hreport

/-- A node is entered, unless the id is that of no node. -/
theorem enter (left : Nat) : ∀ id, I.target id → Keeps I.Holds (Play.enter setup left id) fun found =>
    found = false → ∃ id, I.target id ∧ setup.story.node? id = none := by
  induction left using Nat.strongRecOn with
  | ind left ih =>
    intro id hid
    unfold Play.enter
    split
    · next hnone =>
      refine Keeps.bind (log_keeps (up.nodeMissing id hid hnone)) fun _ _ => ?_
      exact Keeps.pure fun _ => ⟨id, hid, hnone⟩
    · next n hn =>
      have hmem := Story.mem_nodes_of_node? hn
      have hstay : Keeps I.Holds (do Play.arrive n; return true) fun found =>
          found = false → ∃ id, I.target id ∧ setup.story.node? id = none :=
        Keeps.bind (up.arrive hmem) fun _ _ => Keeps.pure (by rintro ⟨⟩)
      refine Keeps.bind (up.moveTo hmem (Story.id_of_node? hn ▸ hid)) fun _ _ => ?_
      refine Keeps.bind (up.entryTarget hmem) fun t ht => ?_
      cases t with
      | none => exact hstay
      | some target =>
        have htarget := ht target rfl
        dsimp only
        split
        · next hnone =>
          have hline := up.entryJump n.id target htarget (Option.isNone_iff_eq_none.1 hnone)
          exact Keeps.bind (log_keeps hline) fun _ _ => hstay
        · cases left with
          | zero => exact Keeps.bind up.log fun _ _ => hstay
          | succ left => exact Keeps.bind up.log fun _ _ => ih left (Nat.lt_succ_self left) _ htarget

theorem enterNode {id : String} (hid : I.target id) :
    Keeps I.Holds (Play.enterNode setup id) fun found =>
      found = false → ∃ id, I.target id ∧ setup.story.node? id = none :=
  up.enter _ id hid

theorem start : Keeps I.Holds (Play.start setup) fun _ => True := by
  unfold Play.start
  refine Keeps.bind state_keeps fun s hs => ?_
  exact (up.enterNode (up.current s hs)).mono fun _ _ => trivial

/-! ## Choices -/

theorem requirement_lines (warnings : List String) :
    ∀ line ∈ Requirement.logOf warnings, I.line line := by
  intro line hline
  obtain ⟨w, -, rfl⟩ := List.mem_map.1 hline
  exact up.sound _ rfl (by rintro _ ⟨⟩)

theorem choices : Keeps I.Holds (Play.choices setup) fun _ => True := by
  unfold Play.choices
  refine Keeps.bind get_keeps fun g _ => ?_
  split
  · exact Keeps.pure trivial
  · exact Keeps.bind (logAll_keeps (up.requirement_lines _)) fun _ _ => Keeps.pure trivial

theorem choiceTarget {n : Node α} {c : Choice α} (index : Nat) (hc : I.target c.next)
    {report : Option EffectReport} (hreport : ∀ r, report = some r → I.jump r) :
    Keeps I.Holds (Play.choiceTarget setup n index c report) I.target := by
  unfold Play.choiceTarget
  split
  · exact Keeps.pure hc
  · next target hgoto =>
    obtain ⟨r, hr, hgoto⟩ := Option.bind_eq_some_iff.1 hgoto
    have htarget := hreport r hr target hgoto
    split
    · exact Keeps.pure htarget
    · next hnone =>
      have hline := up.choiceJump index n.id target c.next htarget (by simpa using hnone)
      exact Keeps.bind (log_keeps hline) fun _ _ => Keeps.pure hc

/-- A choice that is taken is turned back only if it leads to no node. -/
def Told (I : Invariant α) (setup : Setup α) (r : ChoiceResult) : Prop :=
  ∀ id, r.error = some ("Node not found: " ++ id) →
    ∃ id, I.target id ∧ setup.story.node? id = none

theorem takeChoice {n : Node α} (hn : n ∈ setup.story.nodes) {c : Choice α} (hc : c ∈ n.choices)
    (index : Nat) : Keeps I.Holds (Play.takeChoice setup n index c) (Told I setup) := by
  obtain ⟨hnext, heffects⟩ := up.choice n hn c hc
  unfold Play.takeChoice
  refine Keeps.bind (emit_keeps _) fun _ _ => ?_
  refine Keeps.bind (up.applyAny heffects) fun report hr => ?_
  refine Keeps.bind (up.choiceTarget index hnext hr) fun target htarget => ?_
  refine Keeps.bind (up.enterNode htarget) fun entered hentered => ?_
  refine Keeps.bind state_keeps fun s _ => ?_
  cases entered with
  | true => exact Keeps.pure (by rintro id ⟨⟩)
  | false => exact Keeps.pure fun _ _ => hentered rfl

theorem choose (index : Int) : Keeps I.Holds (Play.choose setup index) (Told I setup) := by
  have hrefuse : ∀ reason : String, (∀ id, reason ≠ "Node not found: " ++ id) →
      Keeps I.Holds (pure (ChoiceResult.failure reason)) (Told I setup) := by
    intro reason h
    refine Keeps.pure fun id hid => ?_
    exact absurd (Option.some.inj hid) (h id)
  unfold Play.choose
  refine Keeps.bind get_keeps fun g _ => ?_
  split
  · refine hrefuse _ fun id h => ?_
    have h := congrArg String.toList h
    simp at h
  · next n hn =>
    have hmem := Story.mem_nodes_of_node? hn
    split
    · refine Keeps.bind (Keeps.lift fun _ _ => trivial) fun position _ => ?_
      refine Keeps.bind up.log fun _ _ => hrefuse _ fun id h => ?_
      have h := congrArg String.toList h
      simp at h
    · next c hc =>
      have hc := Play.mem_of_choiceAt? hc
      refine Keeps.bind up.choices fun _ _ => ?_
      refine Keeps.bind state_keeps fun s _ => ?_
      dsimp only
      split
      · exact up.takeChoice hmem hc _
      · refine Keeps.bind up.log fun _ _ => hrefuse _ fun id h => ?_
        have h := congrArg String.toList h
        simp at h

/-! ## Puzzles -/

theorem applyOutcome {p : Puzzle α} (hp : I.puzzle p) (resolved : Option Bool) :
    Keeps I.Holds (Play.applyOutcome setup (resolved.bind p.outcome?)) fun report =>
      ∀ r, report = some r → I.jump r := by
  unfold Play.applyOutcome
  split
  · exact Keeps.pure (by rintro r ⟨⟩)
  · next o ho =>
    obtain ⟨success, -, ho⟩ := Option.bind_eq_some_iff.1 ho
    exact up.applyAny (up.outcome p hp success o ho).1

theorem enterAny {target : Option String} (h : ∀ t, target = some t → I.target t) :
    Keeps I.Holds (Play.enterAny setup target) fun _ => True := by
  unfold Play.enterAny
  split
  · exact Keeps.pure trivial
  · next t =>
    exact Keeps.bind (up.enterNode (h t rfl)) fun _ _ => Keeps.pure trivial

/-- What follows a scored answer does not change the progress on puzzles. -/
theorem settle {p : Puzzle α} (hp : I.puzzle p) (score : Score α) (resolved : Option Bool) :
    Keeps I.Holds (Play.settle setup p score resolved) fun _ => True := by
  unfold Play.settle
  refine Keeps.bind (up.applyOutcome hp resolved) fun report hreport => ?_
  refine Keeps.bind (emit_keeps _) fun _ _ => ?_
  refine Keeps.bind emitState_keeps fun _ _ => ?_
  refine Keeps.bind (up.enterAny fun target htarget => ?_) fun _ _ => ?_
  · rcases Option.or_eq_some_iff.1 htarget with hnext | ⟨-, hgoto⟩
    · obtain ⟨o, ho, hnext⟩ := Option.bind_eq_some_iff.1 hnext
      obtain ⟨success, -, ho⟩ := Option.bind_eq_some_iff.1 ho
      exact (up.outcome p hp success o ho).2 target hnext
    · obtain ⟨r, hr, hgoto⟩ := Option.bind_eq_some_iff.1 hgoto
      exact hreport r hr target hgoto
  · exact Keeps.bind state_keeps fun s _ => Keeps.pure trivial

theorem activePuzzle? {g : Game α} (hg : I.Stands g) {p : Puzzle α}
    (hp : g.activePuzzle? setup = some p) : I.puzzle p := by
  unfold Game.activePuzzle? at hp
  split at hp
  · cases hp
  · next b hb =>
    obtain ⟨n, hn, hb⟩ := Option.bind_eq_some_iff.1 hb
    have hbase := up.base n (Story.mem_nodes_of_node? hn) b hb
    split at hp
    · next q hq =>
      split at hp
      · cases hp
        exact hg.active p hq
      · cases hp
        exact hbase
    · cases hp
      exact hbase

theorem score {p : Puzzle α} (hp : I.puzzle p) (answer : Datum α) :
    Keeps I.Holds (Play.score setup p answer) fun _ => True := by
  unfold Play.score
  refine Keeps.bind Keeps.get fun g hg => ?_
  refine Keeps.bind (Keeps.set ⟨⟨hg.state, hg.active⟩, hg.lines⟩) fun _ _ => ?_
  refine Keeps.bind (logAll_keeps fun line hline => ?_) fun _ _ => Keeps.pure trivial
  obtain ⟨l, hl, rfl⟩ := List.mem_map.1 hline
  exact up.scored p hp g.scored answer l hl

theorem assess (bears : I.Bears) {p : Puzzle α} (hp : I.puzzle p) (r : Progress α)
    (answer : Datum α) (timeMs : Option Int) :
    Keeps I.Holds (Play.assess setup p r answer timeMs) fun j =>
      ∀ q score resolved, j = .scored q score resolved → I.puzzle q := by
  have hdismiss : ∀ a, Keeps I.Holds (pure (Judgement.dismissed a) : Play α (Judgement α)) fun j =>
      ∀ q score resolved, j = .scored q score resolved → I.puzzle q :=
    fun a => Keeps.pure (by rintro q score resolved ⟨⟩)
  unfold Play.assess
  split
  · exact Keeps.bind state_keeps fun s _ => hdismiss _
  · split
    · exact hdismiss _
    · refine Keeps.bind (up.score hp answer) fun result _ => ?_
      split
      · exact Keeps.bind up.log fun _ _ => hdismiss _
      · refine Keeps.bind (bears.record _ _ _ _) fun _ _ => ?_
        refine Keeps.bind (bears.resolve _ _) fun resolved _ => Keeps.pure ?_
        rintro q score resolved ⟨⟩
        exact hp

theorem judge (bears : I.Bears) (answer : Datum α) (timeMs : Option Int) :
    Keeps I.Holds (Play.judge setup answer timeMs) fun j =>
      ∀ p score resolved, j = .scored p score resolved → I.puzzle p := by
  unfold Play.judge
  refine Keeps.bind get_keeps fun g hg => ?_
  split
  · exact Keeps.bind up.log fun _ _ => Keeps.pure (by rintro p score resolved ⟨⟩)
  · next p hp =>
    have hp := up.activePuzzle? hg hp
    exact Keeps.bind (bears.hinted.openProgress _) fun r _ => up.assess bears hp r answer timeMs

theorem solve (bears : I.Bears) (answer : Datum α) (timeMs : Option Int) :
    Keeps I.Holds (Play.solve setup answer timeMs) fun _ => True := by
  unfold Play.solve
  refine Keeps.bind (up.judge bears answer timeMs) fun j hj => ?_
  cases j with
  | dismissed a => exact Keeps.pure trivial
  | scored p score resolved => exact up.settle (hj p score resolved rfl) score resolved

/-! ## Hints -/

theorem payHint {p : Puzzle α} (hp : I.puzzle p) :
    Keeps I.Holds (Play.payHint setup p) fun _ => True := by
  unfold Play.payHint
  split
  · exact Keeps.pure trivial
  · next cost hcost =>
    refine Keeps.bind state_keeps fun s _ => ?_
    split
    · exact Keeps.bind up.log fun _ _ => Keeps.pure trivial
    · exact Keeps.bind (up.applyEffects (up.payment p hp cost hcost)) fun _ _ => Keeps.pure trivial

theorem hint (hinted : I.Hinted) : Keeps I.Holds (Play.hint setup) fun _ => True := by
  unfold Play.hint
  refine Keeps.bind get_keeps fun g hg => ?_
  split
  · exact Keeps.pure trivial
  · next p hp =>
    have hp := up.activePuzzle? hg hp
    split
    · exact Keeps.pure trivial
    · refine Keeps.bind (hinted.openProgress _) fun r _ => ?_
      split
      · exact Keeps.pure trivial
      · refine Keeps.bind (up.payHint hp) fun paid _ => ?_
        split
        · exact (hinted.showHint p _).map fun _ _ => trivial
        · exact Keeps.pure trivial

/-! ## Runs -/

theorem move (bears : I.Bears) (m : Move α) :
    Keeps I.Holds (m.step setup) fun reply => ∀ r, reply = .chosen r → Told I setup r := by
  cases m with
  | start => exact up.start.map fun _ _ => by rintro r ⟨⟩
  | look => exact up.choices.map fun _ _ => by rintro r ⟨⟩
  | choose index =>
    refine (up.choose index).map fun r hr => ?_
    rintro _ ⟨⟩
    exact hr
  | solve answer timeMs => exact (up.solve bears answer timeMs).map fun _ _ => by rintro r ⟨⟩
  | hint => exact (up.hint bears.hinted).map fun _ _ => by rintro r ⟨⟩

/-- An invariant that is upheld stands after every run, and every line logged on the way is one that
it allows. -/
theorem play (bears : I.Bears) (moves : List (Move α)) : ∀ g, I.Stands g →
    I.Stands (g.play setup moves).2 ∧ ∀ turn ∈ (g.play setup moves).1,
      (∀ line, Note.log line ∈ turn.notes → I.line line) ∧
      ∀ r, turn.reply = .ok (.chosen r) → Told I setup r := by
  induction moves with
  | nil =>
    intro g hg
    exact ⟨hg, by rintro turn ⟨⟩⟩
  | cons m rest ih =>
    intro g hg
    obtain ⟨hafter, hreply⟩ := up.move bears m { g with notes := [] } ⟨⟨hg.state, hg.active⟩, by simp⟩
    obtain ⟨hrest, hturns⟩ := ih (g.move setup m).2 ⟨hafter.state, hafter.active⟩
    refine ⟨hrest, fun turn hturn => ?_⟩
    rcases List.mem_cons.1 hturn with rfl | hturn
    · exact ⟨hafter.lines, fun r hr => hreply _ hr r rfl⟩
    · exact hturns turn hturn

end Upheld

/-! ## Invariants of states and puzzles -/

omit [Number α] in
/-- An invariant that speaks of states and of puzzles in play only. -/
def on (P : State α → Prop) (Q : Puzzle α → Prop) : Invariant α where
  state := P
  puzzle := Q
  effects _ := True
  target _ := True
  line _ := True

theorem on_upheld {P : State α → Prop} {Q : Puzzle α → Prop}
    (moved : ∀ s, ∀ n ∈ setup.story.nodes, P s → P { s.visit n.id with currentNode := n.id })
    (change : ∀ s e s', P s → Effect.Change setup.story s e s' → P s')
    (base : ∀ n ∈ setup.story.nodes, ∀ p, n.puzzle = some p → Q p)
    (variant : ∀ n ∈ setup.story.nodes, ∀ p, n.puzzle = some p → ∀ v ∈ p.variants,
      ∀ q, p.withVariant v = .ok q → Q { q with id := p.id }) :
    (on P Q).Upheld setup where
  current _ _ := trivial
  moved s n hn _ hs := moved s n hn hs
  entry _ _ := trivial
  choice _ _ _ _ := ⟨trivial, trivial⟩
  base := base
  variant := variant
  outcome _ _ _ _ _ := ⟨trivial, fun _ _ => trivial⟩
  payment _ _ _ _ := trivial
  applied effects _ := by
    refine applied trivial trivial fun e _ => ⟨fun s s' hs h => change s e s' hs h, ?_, ?_⟩
    · exact fun _ _ => trivial
    · exact fun _ _ => trivial
  sound _ _ _ := trivial
  scored _ _ _ _ _ _ := trivial
  nodeMissing _ _ _ := trivial
  entryJump _ _ _ _ := trivial
  choiceJump _ _ _ _ _ _ := trivial
  variantInvalid _ _ _ _ _ _ _ _ := trivial
  variantRenames _ _ _ _ _ _ _ _ _ := trivial

omit [Number α] in
/-- An invariant that speaks of states only. -/
def ofState (P : State α → Prop) : Invariant α := on P fun _ => True

theorem ofState_upheld {P : State α → Prop}
    (moved : ∀ s, ∀ n ∈ setup.story.nodes, P s → P { s.visit n.id with currentNode := n.id })
    (change : ∀ s e s', P s → Effect.Change setup.story s e s' → P s') :
    (ofState P).Upheld setup :=
  on_upheld moved change (fun _ _ _ _ => trivial) fun _ _ _ _ _ _ _ _ => trivial

end Invariant

end StoryRules
