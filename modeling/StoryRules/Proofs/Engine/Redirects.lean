import StoryRules.Proofs.Effect.Trace
import StoryRules.Proofs.Engine.Entry
import StoryRules.Proofs.Engine.Invariant
import StoryRules.Proofs.Engine.Succeeds
import StoryRules.Proofs.Rational
import StoryRules.Proofs.Validation.Warnings
import StoryRules.Proofs.Validation.WellFormed

/-!
# Circles of redirects in play

Where jumps stand at the top of entry effects, and amounts are exact, entering a node follows the redirects
that the check of the story follows: the limit of redirects is hit just if there is one more of them than
may be followed.  So the check warns of a circle just if no limit is high enough, and where it does not
warn, a limit of one less than there are nodes is.

    g.HitsLimit setup id ↔
      (Redirects.after setup.story.redirectFrom? (setup.config.maxRedirectDepth.toNat + 1) id).isSome = true
-/

namespace StoryRules

variable {α : Type}

/-! ## Jumps at the top -/

namespace Effect

/-- No jump of a list is inside a loot table. -/
def JumpsAtTop (effects : List (Effect α)) : Prop :=
  ∀ table, lootTable table ∈ effects → ∀ target, ¬ Occurs (.goto target) [lootTable table]

variable [Number α] (story : Story α)

/-- A loot table without a jump inside asks for none. -/
theorem loot_keeps {table : List (LootEntry α)}
    (h : ∀ target, ¬ Occurs (.goto target) [lootTable table]) :
    Keeps (fun _ : Scene α => True) (applyOne story (lootTable table)) fun report =>
      report.goto = none := by
  have lists : Lists (fun _ : Scene α => True) fun report => report.goto = none :=
    { timed := fun _ _ h => h
      silent := fun _ h => h
      drawn := fun _ _ h => h
      noted := fun _ _ h _ => h
      absorb := by
        intro a b ha hb
        rw [goto_absorb, ha, hb]
        rfl }
  refine lists.applyOne fun e he => ⟨fun _ _ h _ => h, fun _ _ h _ => h, ?_⟩
  rintro target rfl
  exact absurd (occurs_of_mem_walkOne he) (h target)

/-- A list whose jumps are all at the top asks for the first of them. -/
theorem applyFrom_keeps {effects : List (Effect α)} : JumpsAtTop effects → ∀ so : EffectReport,
    Keeps (fun _ : Scene α => True) (applyFrom story so effects) fun report =>
      report.goto = so.goto.or (firstGoto? effects) := by
  rw [firstGoto?_eq_findSome?]
  induction effects with
  | nil =>
    intro _ so
    rw [applyFrom]
    exact Keeps.pure (Option.or_none).symm
  | cons e rest ih =>
    intro h so
    have hone : Keeps (fun _ : Scene α => True) (applyOne story e) fun report =>
        report.goto = e.target? := by
      cases hloot : e.isLoot with
      | true =>
        cases e with
        | lootTable table => exact loot_keeps story (h table List.mem_cons_self)
        | _ => cases hloot
      | false =>
        rw [applyOne_of_simple (isLoot_eq_false.1 hloot)]
        exact fun scene _ => ⟨trivial, (applySimple_keeps story e scene.draws scene rfl).2⟩
    rw [applyFrom]
    refine hone.bind fun next hnext => ?_
    refine (ih (fun table htable => h table (List.mem_cons_of_mem _ htable)) _).mono ?_
    intro report hreport
    rw [hreport, goto_absorb, hnext, Option.or_assoc, List.findSome?_cons]
    cases e.target? <;> rfl

end Effect

/-! ## Hitting the limit -/

/-- Whether a note tells of a redirect that is one too many. -/
def Note.isLimit : Note α → Bool
  | .log (.redirectLimit ..) => true
  | _ => false

variable [Number α]

/-- Entering a node hits the limit of redirects. -/
def Game.HitsLimit (setup : Setup α) (g : Game α) (id : String) : Prop :=
  (g.run (Play.enterNode setup id)).2.2.any Note.isLimit = true

/-- The same with another limit of redirects. -/
def Setup.withDepth (setup : Setup α) (depth : Int) : Setup α :=
  { setup with config := { setup.config with maxRedirectDepth := depth } }

omit [Number α] in
theorem any_marks (g : Game α) : g.marks.any Note.isLimit = g.notes.any Note.isLimit := by
  unfold Game.marks
  rw [List.any_filter]
  refine congrArg (List.any g.notes) (funext fun note => ?_)
  rcases note with line | e
  · cases line <;> rfl
  · rfl

namespace Play

variable {setup : Setup α} {g after : Game α}

/-! ## Redirects in play -/

theorem entryTarget_eq {n : Node α} (h : Effect.JumpsAtTop n.onEnterEffects) {target : Option String}
    (hrun : (entryTarget setup n).run g = (.ok target, after)) :
    target = Effect.firstGoto? n.onEnterEffects := by
  unfold entryTarget at hrun
  split at hrun
  · next hnone =>
    cases hrun
    rw [List.isEmpty_iff.1 hnone]
    rfl
  · obtain ⟨report, applied, happly, hrun⟩ := Step.run_bind_eq_ok.1 hrun
    cases hrun
    have hkeeps := Effect.applyFrom_keeps setup.story h {} g.scene trivial
    rw [applyEffects_run] at happly
    rcases heffects : (Effect.applyAll setup.story n.onEnterEffects).run g.scene with ⟨_ | found, scene⟩
    · rw [heffects] at happly
      cases happly
    · rw [heffects] at happly
      cases happly
      exact hkeeps.2 report (congrArg Prod.fst heffects)

omit [Number α] in
theorem redirectFrom?_self {s : Story α} {n : Node α} (hn : s.node? n.id = some n) :
    s.redirectFrom? n.id = s.redirect? n := by
  unfold Story.redirectFrom?
  rw [hn]
  rfl

omit [Number α] in
/-- The game stays at a node where there is no redirect, or where one is one too many. -/
theorem Stays.limit {left : Nat} {n : Node α} {lines : List LogLine}
    (hn : setup.story.node? n.id = some n)
    (h : Stays setup left n (Effect.firstGoto? n.onEnterEffects) lines) :
    ((lines.map Note.log).filter Note.isMark).any (Note.isLimit (α := α)) =
      (Redirects.after setup.story.redirectFrom? (left + 1) n.id).isSome := by
  rw [Redirects.after, redirectFrom?_self hn]
  unfold Story.redirect?
  generalize Effect.firstGoto? n.onEnterEffects = target at h
  cases h with
  | quiet => rfl
  | lost hnone =>
    dsimp only
    rw [hnone]
    rfl
  | limited hsome hleft =>
    dsimp only
    rw [if_pos hsome, hleft]
    rfl

omit [Number α] in
theorem entryMarks_limit (n : Node α) (report : EffectReport) :
    (entryMarks n report).any Note.isLimit = false := by
  unfold entryMarks
  split <;> rfl

omit [Number α] in
theorem arrivalMarks_limit (n : Node α) (s : State α) (active : Option (Puzzle α)) :
    (arrivalMarks n s active).any Note.isLimit = false := by
  unfold arrivalMarks startedMarks
  cases n.isEnding <;> cases n.puzzle <;> cases active <;> rfl

/-- Entering a node hits the limit just if one more redirect could be followed than is left. -/
theorem Enters.limit {left : Nat} {n last : Node α} {chain : List (Node α)}
    (hjumps : ∀ n ∈ setup.story.nodes, Effect.JumpsAtTop n.onEnterEffects)
    (h : Enters setup left g n chain last after) : setup.story.node? n.id = some n →
    after.marks.any Note.isLimit = (g.marks.any Note.isLimit ||
      (Redirects.after setup.story.redirectFrom? (left + 1) n.id).isSome) := by
  induction h with
  | @stay left g mid after n target lines hentry hstays harrive =>
    intro hn
    obtain ⟨-, -, -, -, report, -, hmid⟩ := entryTarget_eq_ok hentry
    have htarget := entryTarget_eq (hjumps n (Story.mem_nodes_of_node? hn)) hentry
    subst htarget
    rw [(arrive_eq_ok harrive).marks, Game.marks_logged, hmid, List.any_append, List.any_append,
      List.any_append, entryMarks_limit, arrivalMarks_limit, hstays.limit hn, Bool.or_false, Bool.or_false]
  | @redirect left g mid after n next last target chain hentry hnext _ ih =>
    intro hn
    obtain ⟨-, -, -, -, report, -, hmid⟩ := entryTarget_eq_ok hentry
    have htarget := entryTarget_eq (hjumps n (Story.mem_nodes_of_node? hn)) hentry
    have hid := Story.id_of_node? hnext
    have hredirect : setup.story.redirectFrom? n.id = some target := by
      rw [redirectFrom?_self hn]
      unfold Story.redirect?
      rw [← htarget]
      dsimp only
      rw [if_pos (by rw [hnext]; rfl)]
    have hlogged : (mid.logged [.redirected n.id target]).marks.any Note.isLimit =
        g.marks.any Note.isLimit := by
      rw [Game.marks_logged, hmid, List.any_append, List.any_append, entryMarks_limit, Bool.or_false]
      exact Bool.or_false _
    rw [ih (by rwa [hid]), hlogged, Redirects.after_of_next hredirect, hid]

end Play

theorem Game.hitsLimit_iff [LegibleNumber α] (setup : Setup α) (arithmetic : Number.Exact fun _ : α => True)
    (hjumps : ∀ n ∈ setup.story.nodes, Effect.JumpsAtTop n.onEnterEffects) (g : Game α) (id : String) :
    g.HitsLimit setup id ↔ (Redirects.after setup.story.redirectFrom?
      (setup.config.maxRedirectDepth.toNat + 1) id).isSome = true := by
  have hstory := setup.story.amountsIn_of_forall arithmetic.addable (Draw.drawable_of_exact arithmetic)
  have hsucceeds :=
    Play.enter_succeeds hstory (fun _ : True => setup.story.legible) setup.config.maxRedirectDepth.toNat id
  obtain ⟨found, after, hrun⟩ :=
    hsucceeds.returns (fun g => ⟨trivial, g.state.legible setup.story⟩) { g with notes := [] }
  have hhits : g.HitsLimit setup id ↔ after.marks.any Note.isLimit = true := by
    rw [any_marks]
    unfold HitsLimit Game.run Play.enterNode
    rw [hrun]
  rw [hhits]
  cases hn : setup.story.node? id with
  | none =>
    rw [Play.enter_missing _ hn] at hrun
    cases hrun
    refine iff_of_false (by simp [marks, logged, Note.isMark]) ?_
    rw [Redirects.after]
    unfold Story.redirectFrom?
    rw [hn]
    exact Bool.false_ne_true
  | some n =>
    obtain ⟨-, chain, last, henters⟩ := Play.Enters.of_run hn hrun
    have hid := Story.id_of_node? hn
    rw [henters.limit hjumps (by rwa [hid]), hid]
    exact Iff.rfl

/-! ## The warning -/

/-- The check of a story warns of a circle just if no limit of redirects is high enough for entering its
nodes, in whatever state; and where it does not warn, a limit of one less than there are nodes is never
hit. -/
theorem warnsOfCycle_iff_hitsLimit [LegibleNumber α] {setup : Setup α} {language : PatternLanguage}
    (arithmetic : Number.Exact fun _ : α => True) (hvalid : setup.story.Valid language)
    (hjumps : ∀ n ∈ setup.story.nodes, Effect.JumpsAtTop n.onEnterEffects) :
    ∃ verdict, setup.story.check language = .ok verdict ∧
      (verdict.WarnsOfCycle ↔ ∀ depth : Int, ∃ n ∈ setup.story.nodes, ∀ g : Game α,
        g.HitsLimit (setup.withDepth depth) n.id) ∧
      (verdict.WarnsOfCycle ↔ ∀ depth : Int, ∃ n ∈ setup.story.nodes, ∃ g : Game α,
        g.HitsLimit (setup.withDepth depth) n.id) ∧
      (¬ verdict.WarnsOfCycle → ∀ depth : Int, (setup.story.nodes.length : Int) - 1 ≤ depth →
        ∀ (id : String) (g : Game α), ¬ g.HitsLimit (setup.withDepth depth) id) := by
  have hnodes := hvalid.nodes_ne_nil
  have hids := hvalid.nodeIds
  obtain ⟨verdict, hcheck, -⟩ := hvalid
  have hwarns : verdict.WarnsOfCycle ↔ ∃ id, Redirects.Endless setup.story.redirectFrom? id := by
    rw [Story.check_warnsOfCycle hcheck, Redirects.cycles_ne_nil, Story.get?_redirects hids]
  have hhits : ∀ (depth : Int) (g : Game α) (id : String), g.HitsLimit (setup.withDepth depth) id ↔
      (Redirects.after setup.story.redirectFrom? (depth.toNat + 1) id).isSome = true :=
    fun depth g id => Game.hitsLimit_iff (setup.withDepth depth) arithmetic hjumps g id
  have hlong : ∀ {depth : Int} {g : Game α} {id : String},
      (setup.story.nodes.length : Int) - 1 ≤ depth → g.HitsLimit (setup.withDepth depth) id →
      verdict.WarnsOfCycle := by
    intro depth g id hdepth hhit
    refine hwarns.2 ⟨id, Story.endless_of_after hnodes ?_⟩
    exact Redirects.isSome_after_of_le (by omega) ((hhits depth g id).1 hhit)
  have hgo : verdict.WarnsOfCycle → ∀ depth : Int, ∃ n ∈ setup.story.nodes, ∀ g : Game α,
      g.HitsLimit (setup.withDepth depth) n.id := by
    intro hwarn depth
    obtain ⟨id, hendless⟩ := hwarns.1 hwarn
    obtain ⟨target, htarget⟩ : ∃ target, setup.story.redirectFrom? id = some target := by
      have hfirst := hendless 1
      rw [Redirects.after_succ] at hfirst
      exact Option.isSome_iff_exists.1 hfirst
    obtain ⟨n, hn, rfl⟩ := Story.mem_of_redirectFrom? htarget
    exact ⟨n, hn, fun g => (hhits depth g n.id).2 (hendless _)⟩
  refine ⟨verdict, hcheck, ⟨hgo, fun h => ?_⟩, ⟨fun hwarn depth => ?_, fun h => ?_⟩, ?_⟩
  · obtain ⟨n, -, hn⟩ := h ((setup.story.nodes.length : Int) - 1)
    let g := setup.newGame none (.always (Number.whole 0)) (.always 0)
    exact hlong (Int.le_refl _) (hn g)
  · obtain ⟨n, hn, hall⟩ := hgo hwarn depth
    exact ⟨n, hn, setup.newGame none (.always (Number.whole 0)) (.always 0), hall _⟩
  · obtain ⟨n, -, g, hn⟩ := h ((setup.story.nodes.length : Int) - 1)
    exact hlong (Int.le_refl _) hn
  · exact fun hquiet depth hdepth id g hhit => hquiet (hlong hdepth hhit)

/-- A gate with some gold to find, and behind it two nodes that send the game back and forth. -/
def Setup.roundabout : Setup Rat where
  story :=
    { title := "The roundabout", language := "en", version := "1", assets := [], items := []
      currencies := [⟨"gold", "Gold", none⟩], stats := []
      nodes := [.passage "gate" [.lootTable [⟨1, [.addCurrency "gold" 1]⟩], .goto "left"],
        .passage "left" [.goto "right"], .passage "right" [.goto "left"]] }
  scorer := .always (Scorer.standard Pattern.language)

/-- The check finds the way back and forth, and nothing else. -/
theorem Setup.check_roundabout : Setup.roundabout.story.check Pattern.language =
    .ok ⟨[], ["on_enter redirect cycle detected: left -> right -> left"]⟩ := by
  have hkeys : Setup.roundabout.story.redirects.keys = ["gate", "left", "right"] := by decide +kernel
  have hcycles : Redirects.cycles Setup.roundabout.story.redirects = [["left", "right"]] := by
    unfold Redirects.cycles
    -- Sorting does not evaluate, but there is nothing to sort.
    rw [hkeys, List.mergeSort_of_pairwise (by decide +kernel)]
    decide +kernel
  unfold Story.check Story.flaws
  rw [hcycles]
  decide +kernel

/-- The check warns of the way back and forth, and no limit is high enough for it. -/
theorem roundabout_hitsLimit :
    Setup.roundabout.story.Valid Pattern.language ∧
      (∀ n ∈ Setup.roundabout.story.nodes, Effect.JumpsAtTop n.onEnterEffects) ∧
      ∀ depth : Int, ∃ n ∈ Setup.roundabout.story.nodes, ∀ g : Game Rat,
        g.HitsLimit (Setup.roundabout.withDepth depth) n.id := by
  have hvalid : Setup.roundabout.story.Valid Pattern.language := ⟨_, Setup.check_roundabout, rfl⟩
  have hjumps : ∀ n ∈ Setup.roundabout.story.nodes, Effect.JumpsAtTop n.onEnterEffects := by
    intro n hn table htable target
    rw [← Effect.mem_walk_iff_occurs]
    simp only [Setup.roundabout, List.mem_cons, List.not_mem_nil, or_false] at hn
    rcases hn with rfl | rfl | rfl <;>
      simp [Node.passage, Node.onEnterEffects] at htable
    subst htable
    simp [Effect.walk, Effect.walkOne, Effect.walkEntries]
  refine ⟨hvalid, hjumps, ?_⟩
  obtain ⟨verdict, hcheck, hwarns, -⟩ := warnsOfCycle_iff_hitsLimit Rational.exact hvalid hjumps
  rw [Setup.check_roundabout] at hcheck
  cases hcheck
  exact hwarns.1 ⟨"left -> right -> left", List.mem_singleton.2 rfl⟩

end StoryRules
