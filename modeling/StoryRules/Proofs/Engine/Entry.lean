import StoryRules.Engine
import StoryRules.Proofs.Effect.Keeps
import StoryRules.Proofs.State
import StoryRules.Proofs.Story

/-!
# What entering a node does

Entering a node is turned into the chain of nodes that it leads through: each node of the chain redirects
to the next, and the game stays at the last one.  What is told on the way is read off the marks of a game,
its notes without the lines that tell of neither an event nor a redirect.

    setup.story.node? id = some n → (enter setup left id).run g = (.ok found, after) →
      found = true ∧ ∃ chain last, Enters setup left g n chain last after      (Enters.of_run)
-/

namespace StoryRules

variable {α : Type}

/-! ## Marks -/

/-- Whether a note is an event, or tells of a redirect that is followed or is one too many. -/
def Note.isMark : Note α → Bool
  | .event _ | .log (.redirected ..) | .log (.redirectLimit ..) => true
  | .log _ => false

namespace Game

/-- The marks among the notes of a game. -/
def marks (g : Game α) : List (Note α) := g.notes.filter Note.isMark

/-- The game with some lines logged. -/
def logged (g : Game α) (lines : List LogLine) : Game α :=
  { g with notes := g.notes ++ lines.map .log }

/-- The game with an event told. -/
def told (g : Game α) (e : Event α) : Game α := { g with notes := g.notes ++ [.event e] }

/-- What effects that are applied in a game work on. -/
def scene (g : Game α) : Scene α := { state := g.state, draws := g.draws, clock := g.clock }

/-- The game that effects leave. -/
def leftBy (g : Game α) (scene : Scene α) : Game α :=
  { g with state := scene.state, draws := scene.draws, clock := scene.clock }.logged scene.log

/-- The game where a node has been moved to. -/
def movedTo (g : Game α) (n : Node α) : Game α :=
  { g with state := { g.state.visit n.id with currentNode := n.id }, active := none }

/-- The game that tells of the node that it has arrived at. -/
def greeted (g : Game α) (n : Node α) : Game α :=
  let entered := ((g.logged [.nodeEntered n.id]).told (.nodeEntered n)).told (.stateChanged g.state)
  if n.isEnding then entered.told (.gameEnded n) else entered

@[simp] theorem marks_told (g : Game α) (e : Event α) : (g.told e).marks = g.marks ++ [.event e] := by
  simp [marks, told, Note.isMark]

@[simp] theorem marks_movedTo (g : Game α) (n : Node α) : (g.movedTo n).marks = g.marks := rfl

theorem marks_logged (g : Game α) (lines : List LogLine) :
    (g.logged lines).marks = g.marks ++ (lines.map Note.log).filter Note.isMark := by
  simp [marks, logged]

theorem marks_logged_quiet (g : Game α) (lines : List LogLine)
    (h : ∀ line ∈ lines, (Note.log line : Note α).isMark = false) :
    (g.logged lines).marks = g.marks := by
  have hnone : (lines.map Note.log).filter (Note.isMark (α := α)) = [] := by
    rw [List.filter_eq_nil_iff]
    intro note hnote
    obtain ⟨line, hline, rfl⟩ := List.mem_map.1 hnote
    rw [h line hline]
    exact Bool.false_ne_true
  rw [marks_logged, hnone, List.append_nil]

@[simp] theorem state_told (g : Game α) (e : Event α) : (g.told e).state = g.state := rfl

theorem state_greeted (g : Game α) (n : Node α) : (g.greeted n).state = g.state := by
  unfold greeted
  split <;> rfl

theorem draws_greeted (g : Game α) (n : Node α) : (g.greeted n).draws = g.draws := by
  unfold greeted
  split <;> rfl

theorem marks_greeted (g : Game α) (n : Node α) : (g.greeted n).marks =
    g.marks ++ [.event (.nodeEntered n), .event (.stateChanged g.state)] ++
      if n.isEnding then [.event (.gameEnded n)] else [] := by
  have hquiet := g.marks_logged_quiet [.nodeEntered n.id] (by simp [Note.isMark])
  unfold greeted
  split <;> simp [hquiet]

end Game

/-! ## Effects -/

/-- What effects leave alone, of the scene that they work on. -/
structure Scene.Follows (s : State α) (scene : Scene α) : Prop where
  currentNode : scene.state.currentNode = s.currentNode
  visited : scene.state.visited = s.visited
  puzzles : scene.state.puzzles = s.puzzles
  quiet : ∀ line ∈ scene.log, (Note.log line : Note α).isMark = false

theorem Scene.follows_lists (s : State α) :
    Effect.Lists (Scene.Follows s) fun _ => True where
  timed _ _ h := ⟨h.currentNode, h.visited, h.puzzles, h.quiet⟩
  silent _ _ := trivial
  drawn _ _ h := ⟨h.currentNode, h.visited, h.puzzles, h.quiet⟩
  noted scene line h hline := by
    refine ⟨h.currentNode, h.visited, h.puzzles, fun l hl => ?_⟩
    rcases List.mem_append.1 hl with hl | hl
    · exact h.quiet l hl
    · cases List.mem_singleton.1 hl
      rcases hline with rfl | rfl <;> rfl
  absorb _ _ _ _ := trivial

variable [Number α]

/-- Effects leave alone where the game stands, what was visited and the records of puzzles, and log
nothing of redirects. -/
theorem Effect.applyAll_follows (story : Story α) (effects : List (Effect α)) (s : State α) :
    Keeps (Scene.Follows s) (Effect.applyAll story effects) fun _ => True := by
  refine (Scene.follows_lists s).applyAll fun e _ => ⟨?change, ?misses, fun _ _ _ _ => trivial⟩
  case change =>
    intro scene s' h hchange
    obtain ⟨hnode, hvisited, hpuzzles⟩ := hchange.frame
    exact ⟨hnode.trans h.currentNode, hvisited.trans h.visited, hpuzzles.trans h.puzzles, h.quiet⟩
  case misses =>
    intro scene line h hmiss
    refine ⟨h.currentNode, h.visited, h.puzzles, fun l hl => ?_⟩
    rcases List.mem_append.1 hl with hl | hl
    · exact h.quiet l hl
    · cases List.mem_singleton.1 hl
      cases hmiss <;> rfl

namespace Play

variable {setup : Setup α} {g after : Game α}

omit [Number α] in
theorem emit_run (e : Event α) : (emit e).run g = (.ok (), g.told e) := rfl

omit [Number α] in
theorem state_run : (state (α := α)).run g = (.ok g.state, g) := rfl

omit [Number α] in
theorem emitState_run : (emitState (α := α)).run g = (.ok (), g.told (.stateChanged g.state)) := rfl

/-- Effects that are applied leave the puzzle in play, where the game stands and what was visited, and are
told of by one event. -/
structure Applied (g : Game α) (report : EffectReport) (after : Game α) : Prop where
  active : after.active = g.active
  currentNode : after.state.currentNode = g.state.currentNode
  visited : after.state.visited = g.state.visited
  puzzles : after.state.puzzles = g.state.puzzles
  marks : after.marks = g.marks ++ [.event (.effectsApplied report)]

theorem applyEffects_run (effects : List (Effect α)) :
    (applyEffects setup effects).run g =
      match (Effect.applyAll setup.story effects).run g.scene with
      | (.ok report, scene) => (.ok report, (g.leftBy scene).told (.effectsApplied report))
      | (.error fault, scene) => (.error fault, g.leftBy scene) := by
  unfold applyEffects
  rw [Step.run_bind, Step.run_get]
  dsimp only [Game.scene]
  rcases (Effect.applyAll setup.story effects).run
    { state := g.state, draws := g.draws, clock := g.clock } with ⟨_ | report, scene⟩ <;> rfl

theorem applyEffects_eq_ok {effects : List (Effect α)} {report : EffectReport}
    (h : (applyEffects setup effects).run g = (.ok report, after)) : Applied g report after := by
  obtain ⟨hfollows, -⟩ := Effect.applyAll_follows setup.story effects g.state g.scene
    ⟨rfl, rfl, rfl, by simp [Game.scene]⟩
  rw [applyEffects_run] at h
  rcases hrun : (Effect.applyAll setup.story effects).run g.scene with ⟨_ | report', scene⟩
  · rw [hrun] at h
    cases h
  · rw [hrun] at h hfollows
    cases h
    refine ⟨rfl, hfollows.currentNode, hfollows.visited, hfollows.puzzles, ?_⟩
    rw [Game.marks_told, Game.leftBy, Game.marks_logged_quiet _ _ hfollows.quiet]
    rfl

/-! ## Arriving -/

/-- Drawing a variant changes neither the state nor the marks, and keeps the id. -/
theorem drawVariant_keeps (p : Puzzle α) (s : State α) (marks : List (Note α)) :
    Keeps (fun g : Game α => g.state = s ∧ g.marks = marks) (drawVariant p) fun q => q.id = p.id := by
  have hlog : ∀ line : LogLine, (Note.log line : Note α).isMark = false →
      Keeps (fun g : Game α => g.state = s ∧ g.marks = marks) (log line) fun _ => True := by
    intro line hline
    refine Keeps.update fun g hg => ⟨hg.1, ?_⟩
    exact (Game.marks_logged_quiet g [line] (by simpa using hline)).trans hg.2
  unfold drawVariant
  split
  · exact Keeps.pure rfl
  · have hdraw : Keeps (fun g : Game α => g.state = s ∧ g.marks = marks)
        (draw (p.variants.map Weighted.weight)) fun _ => True := by
      unfold draw
      refine Keeps.bind Keeps.get fun g hg => ?_
      exact Keeps.bind (Keeps.set hg) fun _ _ => Keeps.lift fun _ _ => trivial
    refine Keeps.bind hdraw fun drawn _ => ?_
    cases drawn with
    | none => exact Keeps.pure rfl
    | some i =>
      dsimp only
      split
      · exact Keeps.pure rfl
      · split
        · exact Keeps.bind (hlog _ rfl) fun _ _ => Keeps.pure rfl
        · split
          · next hid => exact Keeps.pure hid
          · exact Keeps.bind (hlog _ rfl) fun _ _ => Keeps.pure rfl

/-- What is told of a puzzle that is put in play. -/
def startedMarks (active : Option (Puzzle α)) : Option (Puzzle α) → List (Note α)
  | none => []
  | some _ => active.toList.map fun q => .event (.puzzleStarted q)

/-- A puzzle that is put in play is that of the node, as far as its id goes. -/
structure BroughtUp (g : Game α) (p : Option (Puzzle α)) (after : Game α) : Prop where
  state : after.state = g.state
  active : ∀ base, p = some base → ∃ q, after.active = some q ∧ q.id = base.id
  marks : after.marks = g.marks ++ startedMarks after.active p

theorem bringUp_eq_ok {p : Option (Puzzle α)} (h : (bringUp p).run g = (.ok (), after)) :
    BroughtUp g p after := by
  cases p with
  | none =>
    cases h
    exact ⟨rfl, fun _ => nofun, by simp [startedMarks]⟩
  | some p =>
    unfold bringUp at h
    obtain ⟨q, drawn, hdraw, h⟩ := Step.run_bind_eq_ok.1 h
    obtain ⟨⟨hstate, hmarks⟩, hid⟩ := drawVariant_keeps p g.state g.marks g ⟨rfl, rfl⟩
    rw [hdraw] at hstate hmarks hid
    cases h
    refine ⟨hstate, ?_, ?_⟩
    · rintro base ⟨⟩
      exact ⟨q, rfl, hid q rfl⟩
    · rw [← hmarks]
      exact Game.marks_told _ _

/-- What is told at a node that the game stays at. -/
def arrivalMarks (n : Node α) (s : State α) (active : Option (Puzzle α)) : List (Note α) :=
  [.event (.nodeEntered n), .event (.stateChanged s)] ++
    (if n.isEnding then [.event (.gameEnded n)] else []) ++ startedMarks active n.puzzle

structure Arrived (g : Game α) (n : Node α) (after : Game α) : Prop where
  state : after.state = g.state
  active : ∀ base, n.puzzle = some base → ∃ q, after.active = some q ∧ q.id = base.id
  marks : after.marks = g.marks ++ arrivalMarks n g.state after.active

/-- The game tells of the node that it arrives at, and then puts the node's puzzle in play. -/
theorem arrive_greets (n : Node α) : (arrive n).run g = (bringUp n.puzzle).run (g.greeted n) := by
  have hrun : (arrive n).run g =
      (if n.isEnding then do emit (.gameEnded n); bringUp n.puzzle else bringUp n.puzzle).run
        (((g.logged [.nodeEntered n.id]).told (.nodeEntered n)).told (.stateChanged g.state)) := rfl
  rw [hrun]
  unfold Game.greeted
  split <;> rfl

theorem arrive_eq_ok {n : Node α} (h : (arrive n).run g = (.ok (), after)) : Arrived g n after := by
  rw [arrive_greets] at h
  obtain ⟨hstate, hactive, hmarks⟩ := bringUp_eq_ok h
  refine ⟨hstate.trans (g.state_greeted n), hactive, ?_⟩
  rw [hmarks, Game.marks_greeted]
  unfold arrivalMarks
  simp only [List.append_assoc]

/-! ## Entry effects -/

/-- What is told of the entry effects of a node. -/
def entryMarks (n : Node α) (report : EffectReport) : List (Note α) :=
  if n.onEnterEffects.isEmpty then [] else [.event (.effectsApplied report)]

/-- The entry effects of a node have been applied, if there are any. -/
structure Treated (g : Game α) (n : Node α) (target : Option String) (after : Game α) : Prop where
  active : after.active = none
  currentNode : after.state.currentNode = n.id
  visited : after.state.visited = (g.state.visit n.id).visited
  puzzles : after.state.puzzles = g.state.puzzles
  marks : ∃ report : EffectReport, report.goto = target ∧ after.marks = g.marks ++ entryMarks n report

theorem entryTarget_eq_ok {n : Node α} {target : Option String}
    (h : (entryTarget setup n).run (g.movedTo n) = (.ok target, after)) :
    Treated g n target after := by
  unfold entryTarget at h
  split at h
  · next hnone =>
    cases h
    exact ⟨rfl, rfl, rfl, g.state.puzzles_visit n.id, {}, rfl, by simp [entryMarks, hnone]⟩
  · next hsome =>
    obtain ⟨report, applied, hrun, h⟩ := Step.run_bind_eq_ok.1 h
    cases h
    have happlied := applyEffects_eq_ok hrun
    refine ⟨happlied.active, happlied.currentNode, happlied.visited, ?_, report, rfl, ?_⟩
    · exact happlied.puzzles.trans (g.state.puzzles_visit n.id)
    · rw [happlied.marks, entryMarks, if_neg hsome]
      rfl

/-! ## Chains -/

/-- What keeps the game at a node, given how many redirects are left: no jump is asked for, or one to no
node, or one too many. -/
inductive Stays (setup : Setup α) (left : Nat) (n : Node α) : Option String → List LogLine → Prop
  | quiet : Stays setup left n none []
  | lost {target : String} : setup.story.node? target = none →
    Stays setup left n (some target) [.entryJumpMissing n.id target]
  | limited {target : String} : (setup.story.node? target).isSome = true → left = 0 →
    Stays setup left n (some target)
      [.redirectLimit setup.config.maxRedirectDepth n.id target]

/-- Entering a node with some redirects left leads through a chain of nodes that are left again to the
last one, at which the game stays. -/
inductive Enters (setup : Setup α) :
    Nat → Game α → Node α → (chain : List (Node α)) → (last : Node α) → Game α → Prop
  | stay {left : Nat} {g mid after : Game α} {n : Node α} {target : Option String}
    {lines : List LogLine} :
    (entryTarget setup n).run (g.movedTo n) = (.ok target, mid) → Stays setup left n target lines →
    (arrive n).run (mid.logged lines) = (.ok (), after) → Enters setup left g n [] n after
  | redirect {left : Nat} {g mid after : Game α} {n next last : Node α} {target : String}
    {chain : List (Node α)} :
    (entryTarget setup n).run (g.movedTo n) = (.ok (some target), mid) →
    setup.story.node? target = some next →
    Enters setup left (mid.logged [.redirected n.id target]) next chain last after →
    Enters setup (left + 1) g n (n :: chain) last after

omit [Number α] in
/-- The jump that entry effects ask for keeps the game at a node, or it is followed. -/
theorem stays_or_redirects (setup : Setup α) (left : Nat) (n : Node α) (target : Option String) :
    (∃ lines, Stays setup left n target lines) ∨
      ∃ fewer id next, left = fewer + 1 ∧ target = some id ∧ setup.story.node? id = some next := by
  cases target with
  | none => exact .inl ⟨[], .quiet⟩
  | some id =>
    cases hnext : setup.story.node? id with
    | none => exact .inl ⟨_, .lost hnext⟩
    | some next =>
      cases left with
      | zero => exact .inl ⟨_, .limited (by rw [hnext]; rfl) rfl⟩
      | succ fewer => exact .inr ⟨fewer, id, next, rfl, rfl, hnext⟩

omit [Number α] in
theorem Stays.lost_or_limited {left : Nat} {n : Node α} {target : Option String} {lines : List LogLine}
    (h : Stays setup left n target lines) : target.bind setup.story.node? = none ∨ left = 0 := by
  cases h with
  | quiet => exact .inl rfl
  | lost hlost => exact .inl hlost
  | limited _ hnone => exact .inr hnone

omit [Number α] in
theorem moveTo_bind_run {β : Type} {n : Node α} (f : Unit → Play α β) :
    (moveTo n >>= f).run g = (f ()).run (g.movedTo n) := rfl

theorem enter_missing (left : Nat) {id : String} (h : setup.story.node? id = none) :
    (enter setup left id).run g = (.ok false, g.logged [.nodeMissing id]) := by
  unfold enter
  rw [h]
  rfl

/-- At a node that the game stays at it arrives. -/
theorem enter_stays {left : Nat} {id : String} {n : Node α} {target : Option String}
    {lines : List LogLine} {mid : Game α} (hn : setup.story.node? id = some n)
    (hentry : (entryTarget setup n).run (g.movedTo n) = (.ok target, mid))
    (hstays : Stays setup left n target lines) :
    (enter setup left id).run g = (do arrive n; return true : Play α Bool).run (mid.logged lines) := by
  unfold enter
  rw [hn]
  dsimp only
  rw [moveTo_bind_run, Step.run_bind, hentry]
  cases hstays with
  | quiet =>
    have hsame : mid.logged [] = mid := by
      unfold Game.logged
      rw [List.map_nil, List.append_nil]
    rw [hsame]
  | lost hlost =>
    dsimp only
    rw [hlost]
    rfl
  | limited hfound hnone =>
    subst hnone
    obtain ⟨next, hnext⟩ := Option.isSome_iff_exists.1 hfound
    dsimp only
    rw [hnext]
    rfl

/-- A node that redirects to another one is left for that one. -/
theorem enter_redirects {left : Nat} {id target : String} {n next : Node α} {mid : Game α}
    (hn : setup.story.node? id = some n)
    (hentry : (entryTarget setup n).run (g.movedTo n) = (.ok (some target), mid))
    (hnext : setup.story.node? target = some next) :
    (enter setup (left + 1) id).run g =
      (enter setup left target).run (mid.logged [.redirected n.id target]) := by
  rw [enter, hn]
  dsimp only
  rw [moveTo_bind_run, Step.run_bind, hentry]
  dsimp only
  rw [hnext]
  rfl

theorem Enters.of_run {left : Nat} : ∀ {g : Game α} {id : String} {n : Node α} {found : Bool},
    setup.story.node? id = some n → (enter setup left id).run g = (.ok found, after) →
    found = true ∧ ∃ chain last, Enters setup left g n chain last after := by
  induction left using Nat.strongRecOn with
  | ind left ih =>
    intro g id n found hn h
    rcases hentry : (entryTarget setup n).run (g.movedTo n) with ⟨fault | target, mid⟩
    · unfold enter at h
      rw [hn] at h
      dsimp only at h
      rw [moveTo_bind_run, Step.run_bind, hentry] at h
      cases h
    · rcases stays_or_redirects setup left n target with
        ⟨lines, hstays⟩ | ⟨fewer, id, next, rfl, rfl, hnext⟩
      · rw [enter_stays hn hentry hstays] at h
        obtain ⟨_, _, harrive, h⟩ := Step.run_bind_eq_ok.1 h
        cases h
        exact ⟨rfl, [], n, .stay hentry hstays harrive⟩
      · rw [enter_redirects hn hentry hnext] at h
        obtain ⟨hfound, chain, last, henters⟩ := ih fewer (Nat.lt_succ_self fewer) hnext h
        exact ⟨hfound, n :: chain, last, .redirect hentry hnext henters⟩

namespace Enters

variable {left : Nat} {n last : Node α} {chain : List (Node α)}

theorem length_le (h : Enters setup left g n chain last after) : chain.length ≤ left := by
  induction h with
  | stay => exact Nat.zero_le _
  | redirect _ _ _ ih => exact Nat.succ_le_succ ih

/-- The game stands at the last node. -/
theorem currentNode (h : Enters setup left g n chain last after) :
    after.state.currentNode = last.id := by
  induction h with
  | stay hentry _ harrive =>
    rw [(arrive_eq_ok harrive).state]
    exact (entryTarget_eq_ok hentry).currentNode
  | redirect _ _ _ ih => exact ih

/-- All nodes on the way are nodes of the story. -/
theorem found (h : Enters setup left g n chain last after) (hn : setup.story.node? n.id = some n) :
    ∀ m ∈ chain ++ [last], setup.story.node? m.id = some m := by
  induction h with
  | stay => simpa using hn
  | redirect _ hnext _ ih =>
    intro m hm
    rcases List.mem_cons.1 hm with rfl | hm
    · exact hn
    · exact ih (by rwa [Story.id_of_node? hnext]) m hm

end Enters

end Play

end StoryRules
