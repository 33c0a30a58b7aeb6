import StoryRules.Proofs.Effect.Performs
import StoryRules.Proofs.Engine.Protocol
import StoryRules.Proofs.Engine.Redirects

/-!
# The chain of nodes that are entered

Entering a node leads through a chain of nodes, each of which is the one that the entry effects of the node
before it jump to, in the scene that this one was entered in.  The chain ends at a node whose entry effects
jump to no node of the story, or with as many redirects as the settings allow.  There the game arrives, and
the puzzle of the node is put in play: the draw of its variant is what may still meet a fault.

    setup.story.node? id = some n → EntriesEnd setup g n →
      ∃ chain last left, Settles setup g n chain last left ∧ ... after.state = left.state      (enterNode_chain)
-/

namespace StoryRules

variable {α : Type}

/-- A scene in which a node has been moved to. -/
def Scene.movedTo (scene : Scene α) (n : Node α) : Scene α :=
  { scene with
    state := { scene.state.visit n.id with currentNode := n.id }
    log := [] }

variable [Number α]

/-- In a scene in which a node is entered its entry effects come to an end and jump where the first jump among
those that are performed asks for, if there is one. -/
structure Treats (story : Story α) (n : Node α) (scene : Scene α) (jump : Option String)
    (left : Scene α) : Prop where
  run : ∃ report, (Effect.applyAll story n.onEnterEffects).run (scene.movedTo n) = (.ok report, left) ∧
    report.goto = jump
  first : ∃ performed, Effect.Performs story (scene.movedTo n) n.onEnterEffects performed left ∧
    jump = performed.findSome? Effect.target?

/-- From a node that is entered in a scene a chain of redirects leads to another one, that is entered in the
scene that the last of the chain has left. -/
inductive ChainsTo (story : Story α) (start : Scene α) (first : Node α) :
    (chain : List (Node α)) → (n : Node α) → Scene α → Prop
  | here : ChainsTo story start first [] first start
  | next {chain : List (Node α)} {n m : Node α} {scene left : Scene α} {target : String} :
    ChainsTo story start first chain n scene → Treats story n scene (some target) left →
    story.node? target = some m → ChainsTo story start first (chain ++ [n]) m { left with log := [] }

/-- The entry effects of no node meet a fault to which as many redirects lead as the settings allow. -/
def EntriesEnd (setup : Setup α) (start : Scene α) (first : Node α) : Prop :=
  ∀ chain n scene, ChainsTo setup.story start first chain n scene →
    chain.length ≤ setup.config.maxRedirectDepth.toNat → ∃ jump left, Treats setup.story n scene jump left

/-- What comes of the draw of a variant. -/
def Puzzle.drawResult (p : Puzzle α) (draws : Feed α) : Except Fault Unit :=
  if p.variants.isEmpty then .ok ()
  else (Draw.pick (p.variants.map Weighted.weight) draws).1.map fun _ => ()

/-- What comes of putting the puzzle of a node in play. -/
def Node.arrival (n : Node α) (draws : Feed α) : Except Fault Unit :=
  match n.puzzle with
  | none => .ok ()
  | some p => p.drawResult draws

/-- Entering a node leads through a chain of redirects, as many as the settings allow at most, to the last
node: there no node is jumped to, or the redirects are used up. -/
structure Settles (setup : Setup α) (start : Scene α) (first : Node α) (chain : List (Node α))
    (last : Node α) (left : Scene α) : Prop where
  leads : ∃ scene jump, ChainsTo setup.story start first chain last scene ∧
    Treats setup.story last scene jump left ∧
    (jump.bind setup.story.node? = none ∨ (chain.length : Int) = max 0 setup.config.maxRedirectDepth)
  bounded : (chain.length : Int) ≤ max 0 setup.config.maxRedirectDepth

/-! ## Scenes -/

section

variable {story : Story α} {n last first : Node α} {scene start left : Scene α} {jump : Option String}
  {chain : List (Node α)}

/-- Entry effects that meet no fault come to an end. -/
theorem Treats.of_run {report : EffectReport}
    (h : (Effect.applyAll story n.onEnterEffects).run (scene.movedTo n) = (.ok report, left)) :
    Treats story n scene report.goto left :=
  ⟨⟨report, h, rfl⟩, Effect.applyAll_performs h⟩

theorem Treats.follows (h : Treats story n scene jump left) :
    Scene.Follows (scene.movedTo n).state left := by
  obtain ⟨⟨report, hrun, -⟩, -⟩ := h
  obtain ⟨hfollows, -⟩ := Effect.applyAll_follows story n.onEnterEffects (scene.movedTo n).state
    (scene.movedTo n) ⟨rfl, rfl, rfl, by simp [Scene.movedTo]⟩
  rwa [hrun] at hfollows

theorem Treats.currentNode (h : Treats story n scene jump left) : left.state.currentNode = n.id :=
  h.follows.currentNode

theorem Treats.mem_visited (h : Treats story n scene jump left) (id : String) :
    id ∈ left.state.visited ↔ id ∈ scene.state.visited ∨ id = n.id := by
  rw [h.follows.visited, or_comm]
  exact State.mem_visited_visit scene.state

/-- What was visited before and the nodes of the chain is what was visited. -/
theorem ChainsTo.mem_visited (h : ChainsTo story start first chain n scene) (id : String) :
    id ∈ scene.state.visited ↔ id ∈ start.state.visited ∨ id ∈ chain.map (·.id) := by
  induction h with
  | here => simp
  | next _ htreats _ ih =>
    show id ∈ _ ↔ _
    rw [htreats.mem_visited, ih, List.map_append, List.mem_append, List.map_singleton, List.mem_singleton,
      or_assoc]

end

/-! ## Entering -/

namespace Play

variable {setup : Setup α} {g : Game α} {n : Node α} {jump : Option String} {left : Scene α}

theorem entryTarget_treats (h : Treats setup.story n g.scene jump left) :
    ∃ mid, (entryTarget setup n).run (g.movedTo n) = (.ok jump, mid) ∧
      mid.scene = { left with log := [] } := by
  obtain ⟨⟨report, hrun, rfl⟩, -⟩ := h
  unfold entryTarget
  split
  · next hnone =>
    rw [List.isEmpty_iff.1 hnone] at hrun
    cases hrun
    exact ⟨g.movedTo n, rfl, rfl⟩
  · have hscene : (g.movedTo n).scene = g.scene.movedTo n := rfl
    rw [Step.run_bind, applyEffects_run, hscene, hrun]
    exact ⟨_, rfl, rfl⟩

/-! ### Arriving -/

theorem draw_run (weights : List α) : (draw weights).run g =
    ((Draw.pick weights g.draws).1, { g with draws := (Draw.pick weights g.draws).2 }) := by
  unfold draw
  rw [Step.run_bind, Step.run_get]
  dsimp only
  exact Step.run_lift _ _

/-- Only the draw itself may meet a fault: a variant that cannot be read is passed over. -/
theorem drawVariant_result (p : Puzzle α) :
    ((drawVariant p).run g).1.map (fun _ => ()) = p.drawResult g.draws := by
  unfold drawVariant Puzzle.drawResult
  split
  · rfl
  · rw [Step.run_bind, draw_run]
    cases (Draw.pick (p.variants.map Weighted.weight) g.draws).1 with
    | error fault => rfl
    | ok drawn =>
      cases drawn with
      | none => rfl
      | some i =>
        dsimp only
        split
        · rfl
        · split
          · rfl
          · split <;> rfl

theorem bringUp_result (n : Node α) : ((bringUp n.puzzle).run g).1 = n.arrival g.draws := by
  unfold bringUp Node.arrival
  cases n.puzzle with
  | none => rfl
  | some p =>
    have hdraw := drawVariant_result (g := g) p
    dsimp only
    rw [Step.run_bind, ← hdraw]
    rcases (drawVariant p).run g with ⟨_ | q, drawn⟩ <;> rfl

theorem bringUp_state (p : Option (Puzzle α)) : ((bringUp p).run g).2.state = g.state := by
  cases p with
  | none => rfl
  | some p =>
    obtain ⟨⟨hstate, -⟩, -⟩ := drawVariant_keeps p g.state g.marks g ⟨rfl, rfl⟩
    unfold bringUp
    rw [Step.run_bind]
    rcases hdraw : (drawVariant p).run g with ⟨_ | q, drawn⟩
    · rw [hdraw] at hstate
      exact hstate
    · rw [hdraw] at hstate
      exact hstate

/-- Arriving at a node changes nothing of the state, and meets the fault that the draw of a variant meets. -/
theorem arrive_run (n : Node α) :
    ∃ after, (arrive n).run g = (n.arrival g.draws, after) ∧ after.state = g.state := by
  rw [arrive_greets, ← g.draws_greeted n]
  exact ⟨_, Prod.ext (bringUp_result n) rfl, (bringUp_state n.puzzle).trans (g.state_greeted n)⟩

/-! ### Redirects -/

/-- Arriving is all that may still fail once the entry effects of a node have come to an end. -/
theorem arrive_left {mid : Game α} (hmid : mid.scene = { left with log := [] }) (lines : List LogLine) :
    ∃ after, (do arrive n; return true : Play α Bool).run (mid.logged lines) =
      ((n.arrival left.draws).map fun _ => true, after) ∧ after.state = left.state := by
  obtain ⟨after, hrun, hafter⟩ := arrive_run (g := mid.logged lines) n
  have hstate : mid.state = left.state := congrArg Scene.state hmid
  have hdraws : (mid.logged lines).draws = left.draws := congrArg Scene.draws hmid
  rw [Step.run_bind, hrun, hdraws]
  refine ⟨after, ?_, hafter.trans hstate⟩
  cases n.arrival left.draws <;> rfl

/-- Entering a node settles at the end of the chain that it leads through. -/
theorem enter_settles {start : Scene α} {first : Node α} (hends : EntriesEnd setup start first)
    {k : Nat} : ∀ {g : Game α} {id : String} {n : Node α} {chain : List (Node α)},
    setup.story.node? id = some n → ChainsTo setup.story start first chain n g.scene →
    chain.length + k = setup.config.maxRedirectDepth.toNat →
    ∃ chain last left after, Settles setup start first chain last left ∧
      (enter setup k id).run g = ((last.arrival left.draws).map fun _ => true, after) ∧
      after.state = left.state := by
  induction k using Nat.strongRecOn with
  | ind k ih =>
    intro g id n chain hn hchain hlength
    obtain ⟨jump, left, htreats⟩ := hends chain n g.scene hchain (by omega)
    obtain ⟨mid, hentry, hmid⟩ := entryTarget_treats htreats
    rcases stays_or_redirects setup k n jump with ⟨lines, hstays⟩ | ⟨fewer, target, m, rfl, rfl, hm⟩
    · obtain ⟨after, hrun, hafter⟩ := arrive_left (n := n) hmid lines
      have hlast : jump.bind setup.story.node? = none ∨
          (chain.length : Int) = max 0 setup.config.maxRedirectDepth :=
        hstays.lost_or_limited.imp_right fun _ => by omega
      refine ⟨chain, n, left, after, ⟨⟨g.scene, jump, hchain, htreats, hlast⟩, by omega⟩, ?_, hafter⟩
      rw [enter_stays hn hentry hstays, hrun]
    · have hnext : ChainsTo setup.story start first (chain ++ [n]) m
          (mid.logged [.redirected n.id target]).scene := by
        show ChainsTo setup.story start first (chain ++ [n]) m mid.scene
        rw [hmid]
        exact .next hchain htreats hm
      rw [enter_redirects hn hentry hm]
      refine ih fewer (Nat.lt_succ_self fewer) hm hnext ?_
      rw [List.length_append, List.length_singleton]
      omega

end Play

/-! ## Chains -/

section

variable {setup : Setup α}

theorem ChainsTo.mem_nodes {story : Story α} {start scene : Scene α} {first n : Node α}
    {chain : List (Node α)} (h : ChainsTo story start first chain n scene) (hfirst : first ∈ story.nodes) :
    n ∈ story.nodes := by
  cases h with
  | here => exact hfirst
  | next _ _ hm => exact Story.mem_nodes_of_node? hm

theorem entriesEnd_of_returns {first : Node α} (hfirst : first ∈ setup.story.nodes)
    (h : ∀ n ∈ setup.story.nodes, ∀ scene, ∃ report left,
      (Effect.applyAll setup.story n.onEnterEffects).run scene = (.ok report, left))
    (start : Scene α) : EntriesEnd setup start first := by
  intro chain n scene hchain _
  obtain ⟨report, left, hrun⟩ := h n (hchain.mem_nodes hfirst) (scene.movedTo n)
  exact ⟨report.goto, left, .of_run hrun⟩

theorem Node.arrival_eq_ok {n : Node α}
    (h : ∀ p, n.puzzle = some p → Draw.Drawable (p.variants.map Weighted.weight)) (draws : Feed α) :
    n.arrival draws = .ok () := by
  unfold arrival
  cases hp : n.puzzle with
  | none => rfl
  | some p =>
    obtain ⟨drawn, hdrawn⟩ := h p hp draws
    unfold Puzzle.drawResult
    dsimp only
    split
    · rfl
    · rw [hdrawn]
      rfl

/-- Entering no node of the story changes and tells nothing.  Entering a node whose entry effects meet no fault,
nor those of the nodes that it leads to, leads through a chain of redirects to a last node: the game stands
there in the state that its entry effects left, and besides what was visited before the nodes of the chain and
the last one were.  The node was found, unless a variant cannot be drawn for the puzzle of the last node. -/
theorem enterNode_chain (setup : Setup α) (g : Game α) (id : String) :
    let result := (g.run (Play.enterNode setup id)).1
    let after := (g.run (Play.enterNode setup id)).2.1
    let notes := (g.run (Play.enterNode setup id)).2.2
    (setup.story.node? id = none →
      result = .ok false ∧ after = { g with notes := [] } ∧ kinds notes = []) ∧
    ∀ n, setup.story.node? id = some n → EntriesEnd setup g.scene n →
      ∃ chain last left, Settles setup g.scene n chain last left ∧
        after.state = left.state ∧ after.state.currentNode = last.id ∧
        (∀ id, id ∈ after.state.visited ↔
          id ∈ g.state.visited ∨ id ∈ (chain ++ [last]).map (·.id)) ∧
        result = (last.arrival left.draws).map (fun _ => true) ∧
        ((∀ p, last.puzzle = some p → Draw.Drawable (p.variants.map Weighted.weight)) →
          result = .ok true) := by
  intro result after notes
  refine ⟨fun hnone => ?missing, fun n hn hends => ?found⟩
  case missing =>
    have hrun : g.run (Play.enterNode setup id) =
        (.ok false, { g with notes := [] }, [.log (.nodeMissing id)]) := by
      unfold Game.run Play.enterNode
      rw [Play.enter_missing _ hnone]
      rfl
    refine ⟨?_, ?_, ?_⟩
    · show (g.run (Play.enterNode setup id)).1 = _
      rw [hrun]
    · show (g.run (Play.enterNode setup id)).2.1 = _
      rw [hrun]
    · show kinds (g.run (Play.enterNode setup id)).2.2 = _
      rw [hrun]
      rfl
  case found =>
    obtain ⟨chain, last, left, entered, hsettles, hrun, hentered⟩ :=
      Play.enter_settles (g := { g with notes := [] }) hends hn .here (Nat.zero_add _)
    have hrun : g.run (Play.enterNode setup id) =
        ((last.arrival left.draws).map fun _ => true, { entered with notes := [] }, entered.notes) := by
      unfold Game.run Play.enterNode
      rw [hrun]
    have hresult : result = (last.arrival left.draws).map fun _ => true := congrArg Prod.fst hrun
    have hstate : after.state = left.state :=
      (congrArg (fun run : Except Fault Bool × Game α × List (Note α) => run.2.1.state) hrun).trans hentered
    obtain ⟨scene, jump, hchain, htreats, -⟩ := hsettles.leads
    refine ⟨chain, last, left, hsettles, hstate, ?_, fun id => ?_, hresult, fun hdraws => ?_⟩
    · rw [hstate]
      exact htreats.currentNode
    · rw [hstate, htreats.mem_visited, hchain.mem_visited, List.map_append, List.mem_append,
        List.map_singleton, List.mem_singleton, or_assoc]
      exact Iff.rfl
    · rw [hresult, Node.arrival_eq_ok hdraws]
      rfl

end

/-- With one redirect allowed the way from the gate ends at the next node, although that one leads on. -/
theorem roundabout_chain :
    let setup := Setup.roundabout.withDepth 1
    let g := setup.newGame none (.always (1 / 2)) (.always 0)
    ∃ n, setup.story.node? "gate" = some n ∧ EntriesEnd setup g.scene n ∧
      (g.run (Play.enterNode setup "gate")).1 = .ok true ∧
      ∃ chain last left, Settles setup g.scene n chain last left ∧ last.id = "left" := by
  intro setup g
  have hsome : (setup.story.node? "gate").isSome = true := by decide +kernel
  obtain ⟨n, hn⟩ := Option.isSome_iff_exists.1 hsome
  have hends : EntriesEnd setup g.scene n := by
    have hstory := setup.story.amountsIn_of_forall Rational.exact.addable
      (Draw.drawable_of_exact Rational.exact)
    refine entriesEnd_of_returns (Story.mem_nodes_of_node? hn) (fun n hn scene => ?_) g.scene
    have hsucceeds := Effect.applyAll_succeeds setup.story (hstory.entry n hn)
      fun _ : True => Effect.allLegible n.onEnterEffects
    exact hsucceeds.returns (fun scene => ⟨trivial, scene.state.legible setup.story⟩) scene
  have hnode : (g.run (Play.enterNode setup "gate")).2.1.state.currentNode = "left" := by decide +kernel
  obtain ⟨chain, last, left, hsettles, -, hlast, -, -, hfound⟩ := (enterNode_chain setup g "gate").2 n hn hends
  refine ⟨n, hn, hends, hfound fun p _ => Draw.drawable_of_exact Rational.exact _, chain, last, left, hsettles,
    ?_⟩
  rw [← hlast, hnode]

/-! ## A cell -/

/-- A lock that leads to the hall once it is open. -/
def Puzzle.bolt : Puzzle Amount where
  id := "bolt"
  prompt := ""
  media := []
  timeLimit := none
  attemptsMax := none
  hints := []
  variants := []
  success := some ⟨[], some "hall"⟩
  failure := none
  gatesChoices := false
  dynamic := none
  task := .numeric (.int 7) (.int 0)

/-- A puzzle with one variant of some weight. -/
def Puzzle.wheel (weight : Int) : Puzzle Amount where
  id := "wheel"
  prompt := ""
  media := []
  timeLimit := none
  attemptsMax := none
  hints := []
  variants := [⟨.int weight, []⟩]
  success := none
  failure := none
  gatesChoices := false
  dynamic := none
  task := .numeric (.int 7) (.int 0)

/-- A cell with a bolt, and behind it a hall with a wheel. -/
def Story.cell (weight : Int) : Story Amount where
  title := "The cell"
  language := "en"
  version := "1"
  assets := []
  items := []
  currencies := []
  stats := []
  nodes :=
    [{ id := "cell", part := 1, isEnding := false, title := "", text := "", media := []
       onEnter := none, puzzle := some .bolt, choices := [⟨"Wait", "end", none, [], none⟩] },
     { id := "hall", part := 1, isEnding := false, title := "", text := "", media := []
       onEnter := none, puzzle := some (.wheel weight), choices := [⟨"Leave", "end", none, [], none⟩] },
     { id := "end", part := 1, isEnding := true, title := "", text := "", media := []
       onEnter := none, puzzle := none, choices := [] }]

/-- A game in the cell. -/
def Setup.cell (weight : Int) : Setup Amount := { Setup.riddle with story := .cell weight }

/-- No node of the cell has entry effects. -/
theorem Setup.cell_entriesEnd {weight : Int} (start : Scene Amount) {id : String} {n : Node Amount}
    (hn : (Setup.cell weight).story.node? id = some n) : EntriesEnd (Setup.cell weight) start n := by
  refine entriesEnd_of_returns (Story.mem_nodes_of_node? hn) (fun m hm scene => ?_) start
  have hquiet : m.onEnterEffects = [] := by
    simp only [Setup.cell, Story.cell, List.mem_cons, List.not_mem_nil, or_false] at hm
    rcases hm with rfl | rfl | rfl <;> rfl
  rw [hquiet]
  exact ⟨_, scene, rfl⟩

/-- The hall is a node of the story and has no entry effects, and yet entering it meets a fault where the weight
is a whole number that no floating number can hold. -/
theorem cell_entry_raises :
    let setup := Setup.cell (10 ^ 400)
    let g := setup.newGame none (.always (.float 0.5)) (.always 0)
    setup.story.Valid Pattern.language ∧ ∃ n, setup.story.node? "hall" = some n ∧
      EntriesEnd setup g.scene n ∧ (g.run (Play.enterNode setup "hall")).1 = .error .amountTooLarge := by
  intro setup g
  have hvalid : setup.story.Valid Pattern.language := by decide +kernel
  have hsome : (setup.story.node? "hall").isSome = true := by decide +kernel
  obtain ⟨n, hn⟩ := Option.isSome_iff_exists.1 hsome
  have hfault : (g.run (Play.enterNode setup "hall")).1 = .error .amountTooLarge := by decide +kernel
  exact ⟨hvalid, n, hn, Setup.cell_entriesEnd _ hn, hfault⟩

end StoryRules
