import StoryRules.Proofs.Engine.Invariant
import StoryRules.Proofs.State
import StoryRules.Proofs.Validation.Sound
import StoryRules.Proofs.Validation.Warnings

/-!
# Nodes that nothing refers to are not entered

The check of a story lists the nodes that its choices, its outcomes and its jumps refer to.  That list
covers every way in which play moves: jumps at any depth of a loot table, redirects, and the outcomes
of the puzzles that variants make, as far as those are not the puzzle's own.  So play enters no node
that the check calls unreferenced, unless it is the first.

    id ∈ played.2.state.visited → id is the first node or Flaw.unreferenced id ∉ flaws      (play_referenced)
-/

namespace StoryRules

variable {α : Type} [Number α]

/-- Something in a story leads to a node: it is the first, or it is referred to. -/
def Story.Foresees (s : Story α) (id : String) : Prop :=
  (∃ first ∈ s.firstNode?, id = first.id) ∨ id ∈ s.nodes.flatMap Node.targets

/-! ## References -/

section

variable {s : Story α} {n : Node α}

omit [Number α] in
theorem Effect.goto_mem_targetsOf {effects : List (Effect α)} {target : String}
    (h : .goto target ∈ walk effects) : target ∈ targetsOf effects :=
  List.mem_filterMap.2 ⟨.goto target, h, rfl⟩

theorem Story.Foresees.of_target (hn : n ∈ s.nodes) {id : String} (h : id ∈ n.targets) :
    s.Foresees id :=
  .inr (List.mem_flatMap.2 ⟨n, hn, h⟩)

theorem Node.entry_targets {id : String} (h : id ∈ Effect.targetsOf n.onEnterEffects) :
    id ∈ n.targets :=
  List.mem_append_left _ (List.mem_append_left _ h)

theorem Node.choice_targets {c : Choice α} (hc : c ∈ n.choices) {id : String}
    (h : id ∈ c.next :: Effect.targetsOf c.effects) : id ∈ n.targets := by
  refine List.mem_append_left _ (List.mem_append_right _ ?_)
  exact List.mem_flatMap.2 ⟨c, hc, h⟩

theorem Node.puzzle_targets {p : Puzzle α} (hp : n.puzzle = some p) {id : String}
    (h : id ∈ p.targets) : id ∈ n.targets := by
  refine List.mem_append_right _ (List.mem_flatMap.2 ⟨p, ?_, h⟩)
  simp [hp]

namespace Puzzle

variable {p q : Puzzle α} {v : Variant α} {success : Bool} {o : Outcome α} {id : String}

omit [Number α] in
theorem mem_ownTargets {considered : String → Bool} (hname : considered (outcomeName success) = true)
    (ho : p.outcome? success = some o) (h : id ∈ outcomeTargets o) :
    id ∈ p.ownTargets considered := by
  refine List.mem_flatMap.2 ⟨(success, o), ?_, h⟩
  exact List.mem_filter.2 ⟨mem_outcomes.2 ho, hname⟩

theorem base_targets (ho : p.outcome? success = some o) (h : id ∈ outcomeTargets o) :
    id ∈ p.targets :=
  List.mem_append_left _ (mem_ownTargets rfl ho h)

/-- The outcomes of a puzzle that a variant makes are those that the variant names, or the puzzle's
own. -/
theorem variant_targets [FaithfulNumber α] (hv : v ∈ p.variants) (hq : p.checkVariant v = .puzzle q)
    (ho : q.outcome? success = some o) (h : id ∈ outcomeTargets o) : id ∈ p.targets := by
  cases hname : v.item.has (outcomeName success) with
  | true =>
    refine List.mem_append_right _ (List.mem_flatMap.2 ⟨v, hv, ?_⟩)
    rw [hq]
    exact mem_ownTargets hname ho h
  | false =>
    rw [outcome?_withVariant (checkVariant_eq_puzzle hq).1 hname] at ho
    exact base_targets ho h

end Puzzle

end

/-- Every variant of a valid story that makes a puzzle is one that the check looks into. -/
theorem Story.Valid.checkVariant {language : PatternLanguage} {s : Story α} (h : s.Valid language)
    {n : Node α} (hn : n ∈ s.nodes) {p q : Puzzle α} (hp : n.puzzle = some p) {v : Variant α}
    (hv : v ∈ p.variants) (hq : p.withVariant v = .ok q) : p.checkVariant v = .puzzle q := by
  have hpuzzle := (Node.flaws_meet (Story.nodes_meet h.passes n hn)).2.2 p hp
  obtain ⟨index, hvariant⟩ := (Puzzle.flaws_meet hpuzzle).2.2 v hv
  cases hkeeps : p.keepsId v with
  | true => simp [Puzzle.checkVariant, hkeeps, hq]
  | false =>
    have hrenames : p.checkVariant v = .renames := by simp [Puzzle.checkVariant, hkeeps]
    rw [Puzzle.variantFlaws, hrenames] at hvariant
    exact (Passes.not_single hvariant rfl).elim

/-! ## The invariant -/

/-- What holds while play goes only where the story leads. -/
def foreseeing (setup : Setup α) : Invariant α where
  state s := setup.story.Foresees s.currentNode ∧ ∀ id ∈ s.visited, setup.story.Foresees id
  puzzle p := ∀ success o, p.outcome? success = some o →
    ∀ id ∈ Puzzle.outcomeTargets o, setup.story.Foresees id
  effects es := ∀ id ∈ Effect.targetsOf es, setup.story.Foresees id
  target := setup.story.Foresees
  line _ := True

variable {language : PatternLanguage} {setup : Setup α}

theorem foreseeing_upheld [FaithfulNumber α] (hvalid : setup.story.Valid language) :
    (foreseeing setup).Upheld setup where
  current s hs := hs.1
  moved s n _ htarget hs := by
    refine ⟨htarget, fun id hid => ?_⟩
    rcases (State.mem_visited_visit s).1 hid with rfl | hid
    · exact htarget
    · exact hs.2 id hid
  entry n hn id hid := .of_target hn (Node.entry_targets hid)
  choice n hn c hc :=
    ⟨.of_target hn (Node.choice_targets hc List.mem_cons_self),
      fun id hid => .of_target hn (Node.choice_targets hc (List.mem_cons_of_mem _ hid))⟩
  base n hn p hp success o ho id hid :=
    .of_target hn (Node.puzzle_targets hp (Puzzle.base_targets ho hid))
  variant n hn p hp v hv q hq success o ho id hid := by
    have hcheck := hvalid.checkVariant hn hp hv hq
    exact .of_target hn (Node.puzzle_targets hp (Puzzle.variant_targets hv hcheck ho hid))
  outcome p hp success o ho := by
    refine ⟨fun id hid => hp success o ho id (List.mem_append_right _ hid), fun target htarget => ?_⟩
    exact hp success o ho target (List.mem_append_left _ (by simp [htarget]))
  payment p hp cost hcost := by
    rintro id ⟨⟩
  applied effects heffects := by
    refine Invariant.applied trivial trivial fun e he => ⟨fun s s' hs hchange => ?_, ?_, ?_⟩
    · obtain ⟨hnode, hvisited, -⟩ := hchange.frame
      show setup.story.Foresees s'.currentNode ∧ _
      rwa [hnode, hvisited]
    · exact fun _ _ => trivial
    · rintro target rfl
      exact heffects target (Effect.goto_mem_targetsOf he)
  sound _ _ _ := trivial
  scored _ _ _ _ _ _ := trivial
  nodeMissing _ _ _ := trivial
  entryJump _ _ _ _ := trivial
  choiceJump _ _ _ _ _ _ := trivial
  variantInvalid _ _ _ _ _ _ _ _ := trivial
  variantRenames _ _ _ _ _ _ _ _ _ := trivial

theorem foreseeing_bears : (foreseeing setup).Bears := fun _ _ _ hs => hs

theorem foreseeing_initial (hnodes : setup.story.nodes ≠ []) (hstart : setup.config.startNode = none)
    (draws : Feed α) (clock : Feed Int) :
    (foreseeing setup).Stands (setup.newGame none draws clock) := by
  obtain ⟨first, hfirst⟩ : ∃ first, setup.story.firstNode? = some first :=
    Option.isSome_iff_exists.1 (by simpa [Story.firstNode?] using hnodes)
  refine ⟨⟨.inl ⟨first, hfirst, ?_⟩, by rintro id ⟨⟩⟩, by rintro q ⟨⟩⟩
  show (State.initial setup.story setup.config.startNode).currentNode = first.id
  rw [hstart, State.initial, hfirst]

/-! ## Runs -/

/-- What the check calls unreferenced is foreseen only if it is the first node. -/
theorem Story.Foresees.not_unreferenced {s : Story α} {id : String} (h : s.Foresees id)
    {flaws : List Flaw} (hflaws : s.flaws language = .ok flaws) :
    (∃ first ∈ s.firstNode?, id = first.id) ∨ Flaw.unreferenced id ∉ flaws := by
  refine h.imp_right fun htarget hmem => ?_
  obtain ⟨plain, rfl, hplain⟩ := Story.flaws_eq hflaws
  rcases List.mem_append.1 hmem with hmem | hmem
  · rcases List.mem_append.1 hmem with hmem | hmem
    · cases hplain _ hmem
    · obtain ⟨first, -, n, -, hid, -, hout⟩ := Story.mem_unreferenced.1 hmem
      cases hid
      exact hout htarget
  · obtain ⟨nodes, -, ⟨⟩⟩ := List.mem_map.1 hmem

/-- No node that the check of a valid story calls unreferenced is entered, however the story is played
from its first node. -/
theorem play_referenced [FaithfulNumber α] (hvalid : setup.story.Valid language)
    (hstart : setup.config.startNode = none) {flaws : List Flaw}
    (hflaws : setup.story.flaws language = .ok flaws) (draws : Feed α) (clock : Feed Int)
    (moves : List (Move α)) :
    ∀ id ∈ ((setup.newGame none draws clock).play setup moves).2.state.visited,
      (∃ first ∈ setup.story.firstNode?, id = first.id) ∨ Flaw.unreferenced id ∉ flaws := by
  have hplay := (foreseeing_upheld hvalid).play foreseeing_bears moves _
    (foreseeing_initial hvalid.nodes_ne_nil hstart draws clock)
  exact fun id hid => (hplay.1.state.2 id hid).not_unreferenced hflaws

/-- A second end, which no way leads to. -/
def Node.attic : Node Amount :=
  { id := "attic", part := 1, isEnding := true, title := "", text := "", media := []
    onEnter := none, puzzle := none, choices := [] }

/-- The riddle with the attic. -/
def Story.attic : Story Amount := { riddle with nodes := riddle.nodes ++ [.attic] }

theorem attic_referenced :
    let setup : Setup Amount := { Setup.riddle with story := .attic }
    let played := (setup.newGame none (.always (.int 0)) (.always 0)).play setup
      [.start, .solve (.list [.whole 1]) none]
    ∃ flaws, Story.attic.Valid Pattern.language ∧
      Story.attic.flaws Pattern.language = .ok flaws ∧ Flaw.unreferenced "attic" ∈ flaws ∧
      "end" ∈ played.2.state.visited ∧ "attic" ∉ played.2.state.visited := by
  intro setup played
  have hvalid : setup.story.Valid Pattern.language := by decide +kernel
  obtain ⟨flaws, hflaws, -⟩ := hvalid.passes
  have hattic : Flaw.unreferenced "attic" ∈ Story.attic.unreferenced := by
    refine Story.mem_unreferenced.2 ⟨_, rfl, .attic, ?_, rfl, by decide, by decide +kernel⟩
    exact List.mem_append_right _ List.mem_cons_self
  have hflaw : Flaw.unreferenced "attic" ∈ flaws := by
    obtain ⟨plain, rfl, -⟩ := Story.flaws_eq hflaws
    exact List.mem_append_left _ (List.mem_append_right _ hattic)
  refine ⟨flaws, hvalid, hflaws, hflaw, by decide +kernel, fun hvisited => ?_⟩
  rcases play_referenced hvalid rfl hflaws _ _ _ _ hvisited with ⟨_, ⟨⟩, hid⟩ | hout
  · exact absurd hid (by decide)
  · exact hout hflaw

end StoryRules
