import StoryRules.Proofs.Engine.Entry

/-!
# What entering a node tells

Entering a node tells of the entry effects along its redirect chain, and then of the node at which the game
stays, and of no other.

    (enterNode setup id).run g = (.ok true, after) →
      ∃ marks, after.marks = g.marks ++ marks ∧ Entered setup id after marks      (enterNode_told)
-/

namespace StoryRules

variable {α : Type}

/-! ## Words -/

namespace Note

def kind? : Note α → Option EventKind
  | .event e => some e.kind
  | .log _ => none

/-- The node that is entered. -/
def entered? : Note α → Option (Node α)
  | .event (.nodeEntered n) => some n
  | _ => none

/-- The redirect that is followed: from where to where. -/
def redirect? : Note α → Option (String × String)
  | .log (.redirected node target) => some (node, target)
  | _ => none

end Note

/-- The kinds of the events among some notes. -/
def kinds (notes : List (Note α)) : List EventKind := notes.filterMap Note.kind?

/-- The nodes that the notes tell of as entered. -/
def enteredNodes (notes : List (Note α)) : List (Node α) := notes.filterMap Note.entered?

/-- The redirects that the notes tell of. -/
def redirects (notes : List (Note α)) : List (String × String) := notes.filterMap Note.redirect?

/-- Redirects that lead from one id to another, each going on where the one before it leads. -/
def Leads : String → List (String × String) → String → Prop
  | start, [], stop => start = stop
  | start, (node, target) :: rest, stop => node = start ∧ Leads target rest stop

namespace Node

/-- What is told of a node at which the game stays. -/
def greeting (n : Node α) : List EventKind :=
  [.nodeEntered, .stateChanged] ++ (if n.isEnding then [.gameEnded] else []) ++
    if n.puzzle.isSome then [.puzzleStarted] else []

def hasEntryEffects (n : Node α) : Bool := !n.onEnterEffects.isEmpty

/-- What is told of the entry effects of a node. -/
def entryWord (n : Node α) : List EventKind := if n.hasEntryEffects then [.effectsApplied] else []

end Node

/-- How many of some nodes have entry effects. -/
def Story.countEntryEffects (s : Story α) (ids : List String) : Nat :=
  ids.countP fun id => (s.node? id).any Node.hasEntryEffects

/-- Entering a node led through a chain of redirects to the node at which the game stays, and this is what
was told: of the entry effects of each node of the chain that has any, and of the node at its end. -/
structure Entry (setup : Setup α) (start stop : String) (notes : List (Note α))
    (word : List EventKind) : Prop where
  leads : Leads start (redirects notes) stop
  bounded : (redirects notes).length ≤ setup.config.maxRedirectDepth.toNat
  tells : ∃ n k, setup.story.node? stop = some n ∧ enteredNodes notes = [n] ∧
    k = setup.story.countEntryEffects ((redirects notes).map Prod.fst ++ [n.id]) ∧
    k ≤ setup.config.maxRedirectDepth.toNat + 1 ∧
    word = List.replicate k .effectsApplied ++ n.greeting

/-- Some notes tell of an entry that leads to where a game stands, and of nothing else. -/
def Entered (setup : Setup α) (start : String) (after : Game α) (notes : List (Note α)) : Prop :=
  Entry setup start after.state.currentNode notes (kinds notes)

/-! ## Words of marks -/

theorem filterMap_marks {β : Type} {f : Note α → Option β}
    (h : ∀ line, (Note.log line : Note α).isMark = false → f (.log line) = none)
    (notes : List (Note α)) : (notes.filter Note.isMark).filterMap f = notes.filterMap f := by
  rw [List.filterMap_filter]
  refine congrArg (List.filterMap · notes) (funext fun note => ?_)
  split
  · rfl
  · next hmark =>
    cases note with
    | event e => exact absurd rfl hmark
    | log line => exact (h line (by simpa using hmark)).symm

@[simp] theorem kinds_marks (g : Game α) : kinds g.marks = kinds g.notes :=
  filterMap_marks (fun _ _ => rfl) _

@[simp] theorem enteredNodes_marks (g : Game α) : enteredNodes g.marks = enteredNodes g.notes :=
  filterMap_marks (fun _ _ => rfl) _

@[simp] theorem redirects_marks (g : Game α) : redirects g.marks = redirects g.notes := by
  refine filterMap_marks (fun line hline => ?_) _
  cases line with
  | redirected => cases hline
  | _ => rfl

@[simp] theorem kinds_append (notes more : List (Note α)) :
    kinds (notes ++ more) = kinds notes ++ kinds more := List.filterMap_append ..

@[simp] theorem enteredNodes_append (notes more : List (Note α)) :
    enteredNodes (notes ++ more) = enteredNodes notes ++ enteredNodes more := List.filterMap_append ..

@[simp] theorem redirects_append (notes more : List (Note α)) :
    redirects (notes ++ more) = redirects notes ++ redirects more := List.filterMap_append ..

/-- An entry is told of in whatever notes have the same redirects and the same nodes entered. -/
theorem Entry.among {setup : Setup α} {start stop : String} {notes more : List (Note α)}
    {word : List EventKind} (h : Entry setup start stop notes word)
    (hredirects : redirects more = redirects notes)
    (hentered : enteredNodes more = enteredNodes notes) : Entry setup start stop more word := by
  obtain ⟨hleads, hbounded, htells⟩ := h
  rw [← hredirects] at hleads hbounded htells
  rw [← hentered] at htells
  exact ⟨hleads, hbounded, htells⟩

/-! ## Entering -/

variable [Number α]

namespace Play

variable {setup : Setup α} {g after : Game α}

omit [Number α] in
theorem kinds_entryMarks (n : Node α) (report : EffectReport) :
    kinds (entryMarks n report) = n.entryWord := by
  unfold entryMarks Node.entryWord Node.hasEntryEffects
  cases n.onEnterEffects.isEmpty <;> rfl

omit [Number α] in
theorem quiet_entryMarks (n : Node α) (report : EffectReport) :
    enteredNodes (entryMarks n report) = [] ∧ redirects (entryMarks n report) = [] := by
  unfold entryMarks
  split <;> exact ⟨rfl, rfl⟩

omit [Number α] in
theorem kinds_arrivalMarks {n : Node α} (s : State α) {active : Option (Puzzle α)}
    (h : ∀ base, n.puzzle = some base → ∃ q, active = some q ∧ q.id = base.id) :
    kinds (arrivalMarks n s active) = n.greeting := by
  unfold arrivalMarks Node.greeting
  rw [kinds_append, kinds_append]
  congr 1
  · congr 1
    split <;> rfl
  · cases hp : n.puzzle with
    | none => rfl
    | some base =>
      obtain ⟨q, rfl, -⟩ := h base hp
      rfl

omit [Number α] in
theorem quiet_arrivalMarks (n : Node α) (s : State α) (active : Option (Puzzle α)) :
    enteredNodes (arrivalMarks n s active) = [n] ∧ redirects (arrivalMarks n s active) = [] := by
  unfold arrivalMarks startedMarks
  cases n.isEnding <;> cases n.puzzle <;> cases active <;> exact ⟨rfl, rfl⟩

omit [Number α] in
/-- What keeps the game at a node tells of nothing. -/
theorem Stays.silent {left : Nat} {n : Node α} {target : Option String} {lines : List LogLine}
    (h : Stays setup left n target lines) :
    let marks := (lines.map Note.log).filter (Note.isMark (α := α))
    kinds marks = [] ∧ enteredNodes marks = [] ∧ redirects marks = [] := by
  cases h <;> exact ⟨rfl, rfl, rfl⟩

/-- What is told on the way through a chain of nodes. -/
structure Tells (chain : List (Node α)) (first last : Node α) (marks : List (Note α)) : Prop where
  kinds : kinds marks = (chain ++ [last]).flatMap Node.entryWord ++ last.greeting
  entered : enteredNodes marks = [last]
  leads : Leads first.id (redirects marks) last.id
  passes : (redirects marks).map Prod.fst = chain.map Node.id

theorem Enters.tells {left : Nat} {n last : Node α} {chain : List (Node α)}
    (h : Enters setup left g n chain last after) :
    ∃ marks, after.marks = g.marks ++ marks ∧ Tells chain n last marks := by
  induction h with
  | @stay _ g mid after n target lines hentry hstays harrive =>
    obtain ⟨-, -, -, -, report, -, hmid⟩ := entryTarget_eq_ok hentry
    obtain ⟨-, hactive, hafter⟩ := arrive_eq_ok harrive
    obtain ⟨hkinds, hentered, hredirects⟩ := hstays.silent
    rw [Game.marks_logged, hmid, List.append_assoc, List.append_assoc] at hafter
    refine ⟨_, hafter, ?_, ?_, ?_, ?_⟩
    · rw [kinds_append, kinds_append, hkinds, kinds_entryMarks, kinds_arrivalMarks _ hactive]
      simp
    · rw [enteredNodes_append, enteredNodes_append, hentered, (quiet_entryMarks n report).1,
        (quiet_arrivalMarks n _ _).1]
      rfl
    · rw [redirects_append, redirects_append, hredirects, (quiet_entryMarks n report).2,
        (quiet_arrivalMarks n _ _).2]
      rfl
    · rw [redirects_append, redirects_append, hredirects, (quiet_entryMarks n report).2,
        (quiet_arrivalMarks n _ _).2]
      rfl
  | @redirect _ g mid after n next last target chain hentry hnext _ ih =>
    obtain ⟨-, -, -, -, report, -, hmid⟩ := entryTarget_eq_ok hentry
    obtain ⟨marks, hafter, htells⟩ := ih
    rw [Game.marks_logged, hmid, List.append_assoc, List.append_assoc] at hafter
    have hredirects : redirects (entryMarks n report ++ ([LogLine.redirected n.id target].map
        Note.log).filter Note.isMark ++ marks) = (n.id, target) :: redirects marks := by
      rw [redirects_append, redirects_append, (quiet_entryMarks n report).2]
      rfl
    rw [← List.append_assoc (entryMarks n report)] at hafter
    refine ⟨_, hafter, ?_, ?_, ?_, ?_⟩
    · rw [kinds_append, kinds_append, kinds_entryMarks, htells.kinds]
      simp [StoryRules.kinds, Note.isMark, Note.kind?]
    · rw [enteredNodes_append, enteredNodes_append, (quiet_entryMarks n report).1, htells.entered]
      rfl
    · rw [hredirects]
      exact ⟨rfl, Story.id_of_node? hnext ▸ htells.leads⟩
    · rw [hredirects, List.map_cons, htells.passes]
      rfl

omit [Number α] in
theorem entryWord_flatMap {s : Story α} {nodes : List (Node α)}
    (h : ∀ n ∈ nodes, s.node? n.id = some n) :
    nodes.flatMap Node.entryWord =
      List.replicate (s.countEntryEffects (nodes.map Node.id)) .effectsApplied := by
  induction nodes with
  | nil => rfl
  | cons n rest ih =>
    have hn := h n List.mem_cons_self
    rw [List.flatMap_cons, ih fun m hm => h m (List.mem_cons_of_mem _ hm)]
    unfold Node.entryWord Story.countEntryEffects
    rw [List.map_cons, List.countP_cons, hn]
    cases hsome : n.hasEntryEffects <;> simp [hsome, List.replicate_succ]

/-- Entering a node that exists succeeds, and is told of as an entry. -/
theorem enterNode_told {id : String} {found : Bool}
    (h : (enterNode setup id).run g = (.ok found, after)) :
    found = (setup.story.node? id).isSome ∧ ∃ marks, after.marks = g.marks ++ marks ∧
      if found then Entered setup id after marks else marks = [] := by
  unfold enterNode at h
  cases hn : setup.story.node? id with
  | none =>
    rw [enter_missing _ hn] at h
    cases h
    refine ⟨rfl, [], ?_, rfl⟩
    rw [List.append_nil]
    exact g.marks_logged_quiet _ (by simp [Note.isMark])
  | some n =>
    obtain ⟨rfl, chain, last, henters⟩ := Enters.of_run hn h
    obtain ⟨marks, hmarks, htells⟩ := henters.tells
    have hid := Story.id_of_node? hn
    have hfound := henters.found (by rwa [hid])
    have hlength : (redirects marks).length = chain.length := by
      rw [← List.length_map Prod.fst, htells.passes, List.length_map]
    have hpassed : (redirects marks).map Prod.fst ++ [last.id] = (chain ++ [last]).map Node.id := by
      rw [htells.passes, List.map_append]
      rfl
    refine ⟨rfl, marks, hmarks, ?leads, ?bounded, last, _, ?stands, htells.entered, rfl, ?count, ?word⟩
    case leads =>
      rw [henters.currentNode, ← hid]
      exact htells.leads
    case bounded =>
      rw [hlength]
      exact henters.length_le
    case stands =>
      rw [henters.currentNode]
      exact hfound last (by simp)
    case count =>
      refine Nat.le_trans List.countP_le_length ?_
      rw [List.length_append, List.length_map, hlength]
      exact Nat.succ_le_succ henters.length_le
    case word => rw [htells.kinds, entryWord_flatMap hfound, hpassed]

end Play

end StoryRules
