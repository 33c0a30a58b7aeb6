import StoryRules.Proofs.Engine.Gate
import StoryRules.Proofs.Engine.Returns

/-!
# The gate and the puzzle in play

The choices of a node are held back by the node's own puzzle, as the story has it.  What is answered, hinted
at and timed is the puzzle in play, with the variant that was drawn on entry.  The two say the same of the
gate for as long as no variant overrides it; a choice may also give the reason of the gate as its own.

    a.IsHeldBack ↔ n.isGated g.state = true ∨ c.CitesGate g.state      (play_heldBack)
-/

namespace StoryRules

variable {α : Type}

/-- A choice is shown as one that a puzzle holds back. -/
def Availability.IsHeldBack (a : Availability α) : Prop :=
  a.available = false ∧ a.reason = some "puzzle must be solved"

/-- The choices that a turn showed. -/
def Turn.shown? (turn : Turn α) : Option (List (Availability α)) :=
  match turn.reply with
  | .ok (.offered found) => some found
  | _ => none

theorem Turn.shown?_eq_some {turn : Turn α} {found : List (Availability α)} :
    turn.shown? = some found ↔ turn.reply = .ok (.offered found) := by
  unfold shown?
  split
  · next hreply => rw [hreply, Option.some.injEq, Except.ok.injEq, Reply.offered.injEq]
  · next hother => exact ⟨nofun, fun h => absurd h (hother found)⟩

/-- The puzzle in play gates the choices and is not solved. -/
def Game.GatesInPlay (setup : Setup α) (g : Game α) : Prop :=
  ∃ q, g.activePuzzle? setup = some q ∧ q.gatesChoices = true ∧ g.state.isSolved q.id = false

/-- What a node's puzzle and the puzzle in play say of the gate is the same, as long as it matters. -/
def Game.GatesAlike (setup : Setup α) (g : Game α) (n : Node α) : Prop :=
  ∀ p q, n.puzzle = some p → g.activePuzzle? setup = some q → g.state.isSolved p.id = false →
    q.gatesChoices = p.gatesChoices

variable [Number α]

/-- The requirement of a choice is not met, and the reason that the choice gives for it is that of a gate. -/
def Choice.CitesGate (c : Choice α) (s : State α) : Prop :=
  (Requirement.evaluate? s c.requirement).1 = false ∧ c.disabledReason = some "puzzle must be solved"

/-- No variant of a puzzle overrides whether it gates the choices. -/
def Puzzle.KeepsGate (p : Puzzle α) : Prop :=
  ∀ v ∈ p.variants, ∀ q, p.withVariant v = .ok q → q.gatesChoices = p.gatesChoices

/-- An unlocked choice is shown as held back if the node's own puzzle gates it, or if it says so itself. -/
theorem Node.availability_isHeldBack {n : Node α} {s : State α} {index : Nat} {c : Choice α}
    (hfree : (index : Int) ∉ s.locks n.id) :
    (n.availability s index c).IsHeldBack ↔ n.isGated s = true ∨ c.CitesGate s := by
  have hunlocked : ¬s.isLocked n.id index = true := by
    unfold State.isLocked
    rwa [List.contains_iff_mem]
  unfold availability
  rw [if_neg hunlocked]
  cases hgated : n.isGated s with
  | true => exact ⟨fun _ => .inl rfl, fun _ => ⟨rfl, rfl⟩⟩
  | false =>
    unfold Availability.IsHeldBack Availability.required Choice.CitesGate
    cases hmet : (Requirement.evaluate? s c.requirement).1 with
    | true => simp [hmet]
    | false => simp [hmet]

/-! ## The puzzle in play -/

section

variable {setup : Setup α} {g : Game α} {n : Node α}

/-- At a node with a puzzle that puzzle is in play, or one that a variant of it makes. -/
theorem staged_activePuzzle? (hids : (setup.story.puzzles.map (·.2.id)).Nodup)
    (hg : (staged setup.story).Stands g) (hn : g.currentNode? setup = some n) {p : Puzzle α}
    (hp : n.puzzle = some p) :
    ∃ q, g.activePuzzle? setup = some q ∧ q.id = p.id ∧
      (q = p ∨ ∃ v ∈ p.variants, ∃ made, p.withVariant v = .ok made ∧ q = { made with id := p.id }) := by
  have hown : (g.currentNode? setup).bind (·.puzzle) = some p := by
    rw [hn]
    exact hp
  unfold Game.activePuzzle?
  rw [hown]
  dsimp only
  cases hactive : g.active with
  | none => exact ⟨p, rfl, rfl, .inl rfl⟩
  | some q =>
    dsimp only
    by_cases hid : q.id = p.id
    · rw [if_pos hid]
      -- ids of puzzles are apart, so what is in play was put there by this node
      obtain ⟨n', hn', p', hp', hq⟩ := hg.active q hactive
      have hid' : p'.id = p.id := by
        rcases hq with rfl | ⟨v, -, made, -, rfl⟩
        · exact hid
        · exact hid
      obtain rfl := Story.puzzle_unique hids hn' (Story.mem_nodes_of_node? hn) hp' hp hid'
      exact ⟨q, rfl, hid, hq⟩
    · rw [if_neg hid]
      exact ⟨p, rfl, rfl, .inl rfl⟩

omit [Number α] in
theorem Game.activePuzzle?_eq_none (hn : g.currentNode? setup = some n) (hp : n.puzzle = none) :
    g.activePuzzle? setup = none := by
  have hown : (g.currentNode? setup).bind (·.puzzle) = none := by
    rw [hn]
    exact hp
  unfold activePuzzle?
  rw [hown]

/-- The gate of the node's own puzzle is that of the puzzle in play just if the two agree on it. -/
theorem Node.isGated_iff_gatesInPlay (hids : (setup.story.puzzles.map (·.2.id)).Nodup)
    (hg : (staged setup.story).Stands g) (hn : g.currentNode? setup = some n) :
    (n.isGated g.state = true ↔ g.GatesInPlay setup) ↔ g.GatesAlike setup n := by
  cases hp : n.puzzle with
  | none =>
    have hidle := Game.activePuzzle?_eq_none hn hp
    have hopen : ¬n.isGated g.state = true := by
      rw [isGated_eq_true, hp]
      rintro ⟨p, ⟨⟩, -⟩
    have hquiet : ¬g.GatesInPlay setup := by
      unfold Game.GatesInPlay
      rw [hidle]
      rintro ⟨q, ⟨⟩, -⟩
    refine ⟨fun _ p q hown => ?_, fun _ => iff_of_false hopen hquiet⟩
    rw [hp] at hown
    cases hown
  | some p =>
    obtain ⟨q, hq, hid, -⟩ := staged_activePuzzle? hids hg hn hp
    have hgated : n.isGated g.state = true ↔ p.gatesChoices = true ∧ g.state.isSolved p.id = false := by
      rw [isGated_eq_true, hp]
      constructor
      · rintro ⟨_, ⟨⟩, hgates⟩
        exact hgates
      · exact fun hgates => ⟨p, rfl, hgates⟩
    have hplay : g.GatesInPlay setup ↔ q.gatesChoices = true ∧ g.state.isSolved p.id = false := by
      unfold Game.GatesInPlay
      rw [hq]
      constructor
      · rintro ⟨_, ⟨⟩, hgates⟩
        rwa [hid] at hgates
      · exact fun hgates => ⟨q, rfl, by rwa [hid]⟩
    have halike : g.GatesAlike setup n ↔
        (g.state.isSolved p.id = false → q.gatesChoices = p.gatesChoices) := by
      unfold Game.GatesAlike
      rw [hp, hq]
      constructor
      · exact fun h => h p q rfl rfl
      · rintro h _ _ ⟨⟩ ⟨⟩
        exact h
    rw [hgated, hplay, halike]
    cases p.gatesChoices <;> cases q.gatesChoices <;> cases g.state.isSolved p.id <;> simp

/-- The two agree on the gate if no variant overrides it. -/
theorem Puzzle.KeepsGate.gatesAlike (hids : (setup.story.puzzles.map (·.2.id)).Nodup)
    (hg : (staged setup.story).Stands g) (hn : g.currentNode? setup = some n)
    (hkeeps : ∀ p, n.puzzle = some p → p.KeepsGate) : g.GatesAlike setup n := by
  intro p q hp hq _
  obtain ⟨r, hr, -, hmade⟩ := staged_activePuzzle? hids hg hn hp
  cases hq.symm.trans hr
  rcases hmade with rfl | ⟨v, hv, made, hvariant, rfl⟩
  · rfl
  · exact hkeeps p hp v hv made hvariant

end

/-! ## Play -/

/-- In the play of a valid story an unlocked choice of the current node is shown as held back if the node's own
puzzle gates it and is not solved.  This is so for the puzzle in play just if both agree on the gate, which
they do if no variant overrides it.  A choice that gives the reason of the gate as its own is shown like one
that is held back. -/
theorem play_heldBack {setup : Setup α} {language : PatternLanguage} (hvalid : setup.story.Valid language)
    (draws : Feed α) (clock : Feed Int) (moves : List (Move α)) :
    let g := ((setup.newGame none draws clock).play setup moves).2
    ∀ n, g.currentNode? setup = some n → ∀ (i : Nat) c, n.choices[i]? = some c →
      (i : Int) ∉ g.state.locks n.id →
      ∃ found a, (g.move setup .look).1.reply = .ok (.offered found) ∧ found[i]? = some a ∧
        (a.IsHeldBack ↔ n.isGated g.state = true ∨ c.CitesGate g.state) ∧
        (¬c.CitesGate g.state → ((a.IsHeldBack ↔ g.GatesInPlay setup) ↔ g.GatesAlike setup n)) ∧
        (¬c.CitesGate g.state → (∀ p, n.puzzle = some p → p.KeepsGate) →
          (a.IsHeldBack ↔ g.GatesInPlay setup)) := by
  intro g n hn i c hc hfree
  have hids := hvalid.orderly.puzzleIds
  have hg : (staged setup.story).Stands g :=
    (staged_upheld.play (staged_bears _) moves _ ⟨trivial, by rintro q ⟨⟩⟩).1
  obtain ⟨looked, -, hlook⟩ := Play.choices_run (g := { g with notes := [] }) hn
  have hreply : (g.move setup .look).1.reply = .ok (.offered (n.availabilities g.state)) := by
    rw [Game.move_run (m := .look) rfl hlook]
    rfl
  have hshown : (n.availabilities g.state)[i]? = some (n.availability g.state i c) := by
    rw [Node.getElem?_availabilities, hc]
    rfl
  have hheld := n.availability_isHeldBack (c := c) hfree
  have hagree : ¬c.CitesGate g.state →
      (((n.availability g.state i c).IsHeldBack ↔ g.GatesInPlay setup) ↔ g.GatesAlike setup n) := by
    intro hcites
    rw [hheld, or_iff_left hcites]
    exact Node.isGated_iff_gatesInPlay hids hg hn
  refine ⟨n.availabilities g.state, n.availability g.state i c, hreply, hshown, hheld, hagree, ?_⟩
  intro hcites hkeeps
  exact (hagree hcites).2 (Puzzle.KeepsGate.gatesAlike hids hg hn hkeeps)

/-- The riddle holds back the choice to leave. -/
theorem riddle_heldBack :
    let g := ((Setup.riddle.newGame none (.always (.int 0)) (.always 0)).play Setup.riddle [.start]).2
    Story.riddle.Valid Pattern.language ∧ ∃ found a,
      (g.move Setup.riddle .look).1.reply = .ok (.offered found) ∧ found[0]? = some a ∧ a.IsHeldBack := by
  intro g
  have hvalid : Setup.riddle.story.Valid Pattern.language := Story.riddle_valid
  have hstands : (g.currentNode? Setup.riddle).any (fun n =>
      n.isGated g.state && !g.state.isLocked n.id 0 && n.choices.length == 1) = true := by
    decide +kernel
  obtain ⟨n, hn, hstands⟩ := (Option.any_eq_true _ _).1 hstands
  rw [Bool.and_eq_true, Bool.and_eq_true, beq_iff_eq] at hstands
  obtain ⟨⟨hgated, hlocked⟩, hlength⟩ := hstands
  have hfree : ((0 : Nat) : Int) ∉ g.state.locks n.id := by
    simpa [State.isLocked] using hlocked
  have hchoice : n.choices[0]? = some _ := List.getElem?_eq_getElem (by omega)
  obtain ⟨found, a, hreply, ha, hheld, -⟩ := play_heldBack hvalid _ _ _ n hn 0 _ hchoice hfree
  exact ⟨hvalid, found, a, hreply, ha, hheld.2 (.inl hgated)⟩

/-- A turnstile that has to be unlocked only if its variant is drawn. -/
def Puzzle.turnstile : Puzzle Amount where
  id := "turnstile"
  prompt := ""
  media := []
  timeLimit := none
  attemptsMax := none
  hints := []
  variants := [⟨.int 1, [("gate_choices_until_solved", .bool true)]⟩]
  success := none
  failure := none
  gatesChoices := false
  dynamic := none
  task := .numeric (.int 7) (.int 0)

/-- A hall behind the turnstile. -/
def Story.turnstile : Story Amount where
  title := "The turnstile"
  language := "en"
  version := "1"
  assets := []
  items := []
  currencies := []
  stats := []
  nodes :=
    [{ id := "turnstile", part := 1, isEnding := false, title := "", text := "", media := []
       onEnter := none, puzzle := some .turnstile, choices := [⟨"Pass", "hall", none, [], none⟩] },
     { id := "hall", part := 1, isEnding := true, title := "", text := "", media := []
       onEnter := none, puzzle := none, choices := [] }]

/-- The turnstile that is drawn gates the way and is not solved, and yet the way is open. -/
theorem turnstile_open :
    let setup : Setup Amount := { Setup.riddle with story := .turnstile }
    let g := ((setup.newGame none (.always (.float 0.5)) (.always 0)).play setup [.start]).2
    setup.story.Valid Pattern.language ∧ g.state.locks "turnstile" = [] ∧ g.GatesInPlay setup ∧
      ∃ found a, (g.move setup .look).1.reply = .ok (.offered found) ∧ found[0]? = some a ∧
        ¬a.IsHeldBack ∧ a.available = true := by
  intro setup g
  have hvalid : setup.story.Valid Pattern.language := by decide +kernel
  have hfree : g.state.locks "turnstile" = [] := by decide +kernel
  have hgates : (g.activePuzzle? setup).any (fun q => q.gatesChoices && !g.state.isSolved q.id) = true := by
    decide +kernel
  have hshown : ((g.move setup .look).1.shown?.bind (·[0]?)).any (·.available) = true := by decide +kernel
  refine ⟨hvalid, hfree, ?gates, ?shown⟩
  case gates =>
    obtain ⟨q, hq, hgates⟩ := (Option.any_eq_true _ _).1 hgates
    rw [Bool.and_eq_true, Bool.not_eq_true'] at hgates
    exact ⟨q, hq, hgates⟩
  case shown =>
    obtain ⟨a, ha, hopen⟩ := (Option.any_eq_true _ _).1 hshown
    obtain ⟨found, hfound, ha⟩ := Option.bind_eq_some_iff.1 ha
    refine ⟨found, a, Turn.shown?_eq_some.1 hfound, ha, fun hheld => ?_, hopen⟩
    rw [hheld.1] at hopen
    cases hopen

end StoryRules
