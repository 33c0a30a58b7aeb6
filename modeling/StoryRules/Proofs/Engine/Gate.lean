import StoryRules.Proofs.Effect.Performs
import StoryRules.Proofs.Engine.Protocol

/-!
# When choices are turned away

A choice is turned away exactly if something bars it: there is no current node or no choice at the position,
or it is locked, or the node's puzzle holds it back, or its requirement is not met.  Then the game is left as
it was.  Otherwise it is taken: its effects are applied, and the first node that is entered is the one that
they jump to, or the choice's own target where they jump to no node of the story.  A target that is no node
either is not entered, and a position that is too long for the answer is met with a fault.

    Legible index → (TurnedAway setup g index ↔ Barred setup.story g.state index)      (choose_gated)
-/

namespace StoryRules

variable {α : Type} [Number α]

/-- What keeps the choice at a position of the current node from being taken in a state. -/
inductive Barred (story : Story α) (s : State α) (index : Int) : Prop
  | nowhere : story.node? s.currentNode = none → Barred story s index
  | absent {n : Node α} : story.node? s.currentNode = some n →
    ¬(0 ≤ index ∧ index < n.choices.length) → Barred story s index
  | locked {n : Node α} : story.node? s.currentNode = some n → index ∈ s.locks n.id →
    Barred story s index
  | gated {n : Node α} {p : Puzzle α} : story.node? s.currentNode = some n → n.puzzle = some p →
    p.gatesChoices = true → s.isSolved p.id = false → Barred story s index
  | unmet {n : Node α} {c : Choice α} : story.node? s.currentNode = some n →
    Play.choiceAt? n index = some c → (Requirement.evaluate? s c.requirement).1 = false →
    Barred story s index

/-- The choice at a position is turned away: the answer says that it failed, nothing is told, and the state
and the puzzle in play are as before. -/
structure TurnedAway (setup : Setup α) (g : Game α) (index : Int) : Prop where
  fails : ∃ r, (g.move setup (.choose index)).1.reply = .ok (.chosen r) ∧ r.success = false
  silent : kinds (g.move setup (.choose index)).1.notes = []
  state : (g.move setup (.choose index)).2.state = g.state
  active : (g.move setup (.choose index)).2.active = g.active

/-- The node that a choice leads to: the one that its effects jump to if there is such a node, and else its
own target. -/
def Choice.destination (story : Story α) (c : Choice α) (jump : Option String) : String :=
  (jump.filter fun target => (story.node? target).isSome).getD c.next

/-! ## Availability -/

namespace Node

variable {n : Node α} {s : State α}

omit [Number α] in
theorem isGated_eq_true : n.isGated s = true ↔
    ∃ p, n.puzzle = some p ∧ p.gatesChoices = true ∧ s.isSolved p.id = false := by
  unfold isGated
  cases n.puzzle <;> simp

theorem available_iff {index : Nat} {c : Choice α} :
    (n.availability s index c).available = true ↔
      (index : Int) ∉ s.locks n.id ∧ n.isGated s = false ∧
        (Requirement.evaluate? s c.requirement).1 = true := by
  unfold availability
  split
  · next hlocked =>
    have hlocked : (index : Int) ∈ s.locks n.id := by simpa [State.isLocked] using hlocked
    simp [Availability.locked, hlocked]
  · next hfree =>
    have hfree : (index : Int) ∉ s.locks n.id := by simpa [State.isLocked] using hfree
    split
    · next hgated => simp [Availability.gated, hgated]
    · next hopen => simp [Availability.required, hfree, hopen]

theorem getElem?_availabilitiesFrom (choices : List (Choice α)) (start i : Nat) :
    (n.availabilitiesFrom s start choices)[i]? = choices[i]?.map (n.availability s (start + i)) := by
  induction choices generalizing start i with
  | nil => rfl
  | cons c rest ih =>
    rw [availabilitiesFrom]
    cases i with
    | zero => rfl
    | succ i =>
      rw [List.getElem?_cons_succ, List.getElem?_cons_succ, ih, Nat.add_right_comm, Nat.add_assoc]

theorem getElem?_availabilities (i : Nat) :
    (n.availabilities s)[i]? = n.choices[i]?.map (n.availability s i) := by
  unfold availabilities
  rw [getElem?_availabilitiesFrom, Nat.zero_add]

theorem length_availabilities : (n.availabilities s).length = n.choices.length := by
  have hfrom : ∀ choices start, (n.availabilitiesFrom s start choices).length = choices.length := by
    intro choices
    induction choices with
    | nil => exact fun _ => rfl
    | cons c rest ih => exact fun start => congrArg (· + 1) (ih (start + 1))
  exact hfrom n.choices 0

end Node

/-! ## What bars a choice -/

namespace Play

variable {setup : Setup α} {g after : Game α} {n : Node α} {c : Choice α} {index : Int}

omit [Number α] in
theorem choiceAt?_eq_some : choiceAt? n index = some c ↔ ∃ i : Nat, index = i ∧ n.choices[i]? = some c := by
  unfold choiceAt?
  split
  · next hneg => exact ⟨nofun, fun ⟨i, hi, _⟩ => by omega⟩
  · next hpos =>
    constructor
    · intro h
      exact ⟨index.toNat, by omega, h⟩
    · rintro ⟨i, rfl, h⟩
      rwa [Int.toNat_natCast]

omit [Number α] in
theorem choiceAt?_eq_none : choiceAt? n index = none ↔ ¬(0 ≤ index ∧ index < n.choices.length) := by
  unfold choiceAt?
  split
  · next hneg => exact ⟨fun _ => by omega, fun _ => rfl⟩
  · next hpos => rw [List.getElem?_eq_none_iff]; omega

/-- A choice of the current node is barred exactly if it is shown as not available. -/
theorem barred_iff_of_choice (hn : g.currentNode? setup = some n) (hc : choiceAt? n index = some c) :
    Barred setup.story g.state index ↔ (n.availability g.state index.toNat c).available = false := by
  obtain ⟨i, rfl, hi⟩ := choiceAt?_eq_some.1 hc
  rw [Int.toNat_natCast, ← Bool.not_eq_true, Node.available_iff]
  constructor
  · rintro (hnone | @⟨m, hm, habsent⟩ | @⟨m, hm, hlocked⟩ | @⟨m, p, hm, hp, hgates, hsolved⟩ |
      @⟨m, d, hm, hd, hunmet⟩) ⟨hfree, hopen, hmet⟩
    · cases hn.symm.trans hnone
    · cases hn.symm.trans hm
      rw [choiceAt?_eq_none.2 habsent] at hc
      cases hc
    · cases hn.symm.trans hm
      exact hfree hlocked
    · cases hn.symm.trans hm
      rw [Node.isGated_eq_true.2 ⟨p, hp, hgates, hsolved⟩] at hopen
      cases hopen
    · cases hn.symm.trans hm
      cases hc.symm.trans hd
      rw [hmet] at hunmet
      cases hunmet
  · intro h
    by_cases hfree : (i : Int) ∈ g.state.locks n.id
    · exact .locked hn hfree
    · cases hgated : n.isGated g.state with
      | true =>
        obtain ⟨p, hp, hgates, hsolved⟩ := Node.isGated_eq_true.1 hgated
        exact .gated hn hp hgates hsolved
      | false => exact .unmet hn hc (by simpa [hfree, hgated] using h)

/-! ## Choosing -/

end Play

/-- A game that only logged some lines, none of them of a redirect. -/
def Game.Logs (g after : Game α) : Prop :=
  ∃ lines, after = g.logged lines ∧ ∀ line ∈ lines, (Note.log line : Note α).isMark = false

namespace Game.Logs

variable {g after last : Game α}

omit [Number α]

theorem refl (g : Game α) : g.Logs g := by
  refine ⟨[], ?_, by simp⟩
  unfold logged
  rw [List.map_nil, List.append_nil]

theorem line (h : g.Logs after) {line : LogLine} (hline : (Note.log line : Note α).isMark = false) :
    g.Logs (after.logged [line]) := by
  obtain ⟨lines, rfl, hquiet⟩ := h
  refine ⟨lines ++ [line], by simp [logged], ?_⟩
  intro l hl
  rcases List.mem_append.1 hl with hl | hl
  · exact hquiet l hl
  · rwa [List.mem_singleton.1 hl]

theorem marks (h : g.Logs after) : after.marks = g.marks := by
  obtain ⟨lines, rfl, hquiet⟩ := h
  exact g.marks_logged_quiet lines hquiet

/-- Apart from its notes the game is the same. -/
theorem frame (h : g.Logs after) :
    after.state = g.state ∧ after.active = g.active ∧ after.draws = g.draws ∧ after.clock = g.clock := by
  obtain ⟨lines, rfl, -⟩ := h
  exact ⟨rfl, rfl, rfl, rfl⟩

end Game.Logs

namespace Play

variable {setup : Setup α} {g after : Game α} {n : Node α} {c : Choice α} {index : Int}

/-- Looking at the choices of a node gives each of them with whether it is available. -/
theorem choices_run (hn : g.currentNode? setup = some n) :
    ∃ looked, g.Logs looked ∧ (choices setup).run g = (.ok (n.availabilities g.state), looked) := by
  refine ⟨g.logged (Requirement.logOf ((n.availabilities g.state).flatMap Availability.warnings)),
    ⟨_, rfl, ?_⟩, ?_⟩
  · intro line hline
    obtain ⟨w, -, rfl⟩ := List.mem_map.1 hline
    rfl
  · unfold choices
    rw [Step.run_bind, Step.run_get]
    dsimp only
    rw [hn]
    rfl

theorem choices_run_none (hn : g.currentNode? setup = none) : (choices setup).run g = (.ok [], g) := by
  unfold choices
  rw [Step.run_bind, Step.run_get]
  dsimp only
  rw [hn]
  rfl

/-- A choice that is there is taken or turned away, by whether it is available. -/
theorem choose_run (hn : g.currentNode? setup = some n) (hc : choiceAt? n index = some c) :
    ∃ looked, g.Logs looked ∧ (choose setup index).run g =
      if (n.availability g.state index.toNat c).available then
        (takeChoice setup n index.toNat c).run looked
      else
        let reason := match (n.availability g.state index.toNat c).reason with
          | none | some "" => "requirements not met"
          | some reason => reason
        (.ok (.failure ("Choice not available: " ++ reason)),
          looked.logged [.choiceUnavailable index n.id reason]) := by
  -- the choices are looked at once more first, which leaves log lines only
  obtain ⟨looked, hlogs, hlook⟩ := choices_run hn
  have hstate := hlogs.frame.1
  refine ⟨looked, hlogs, ?_⟩
  unfold choose
  rw [Step.run_bind, Step.run_get]
  dsimp only
  rw [hn]
  dsimp only
  rw [hc]
  dsimp only
  rw [Step.run_bind, hlook]
  dsimp only
  rw [Step.run_bind, state_run]
  dsimp only
  rw [hstate]
  split <;> rfl

/-- A choice that is not there is answered with its position, if that can be written. -/
theorem choose_absent (hn : g.currentNode? setup = some n) (hc : choiceAt? n index = none) :
    (choose setup index).run g = match Number.wholeText α index with
      | .ok position =>
        (.ok (.failure ("Invalid choice index: " ++ position)), g.logged [.choiceMissing index n.id])
      | .error fault => (.error fault, g) := by
  unfold choose
  rw [Step.run_bind, Step.run_get]
  dsimp only
  rw [hn]
  dsimp only
  rw [hc]
  dsimp only
  rw [Step.run_bind, Step.run_lift]
  cases Number.wholeText α index <;> rfl

/-- A choice that is barred leaves only log lines, and is answered with a failure if there is a choice, or if
the position can be written. -/
theorem choose_barred (h : Barred setup.story g.state index) :
    ∃ answer after, (choose setup index).run g = (answer, after) ∧ g.Logs after ∧
      (Number.Legible (Number.whole index : α) → ∃ reason, answer = .ok (.failure reason)) := by
  cases hn : g.currentNode? setup with
  | none =>
    refine ⟨.ok (.failure "No current node"), g, ?_, .refl g, fun _ => ⟨_, rfl⟩⟩
    unfold choose
    rw [Step.run_bind, Step.run_get]
    dsimp only
    rw [hn]
    rfl
  | some n =>
    cases hc : choiceAt? n index with
    | none =>
      have hrun := choose_absent hn hc
      cases hposition : Number.wholeText α index with
      | ok position =>
        rw [hposition] at hrun
        exact ⟨_, _, hrun, (Game.Logs.refl g).line rfl, fun _ => ⟨_, rfl⟩⟩
      | error fault =>
        rw [hposition] at hrun
        refine ⟨_, _, hrun, .refl g, fun hlegible => ?_⟩
        obtain ⟨position, hwritten⟩ := Number.text_of_legible hlegible
        cases hposition.symm.trans hwritten
    | some c =>
      obtain ⟨looked, hlogs, hrun⟩ := choose_run hn hc
      rw [(barred_iff_of_choice hn hc).1 h, if_neg Bool.false_ne_true] at hrun
      exact ⟨_, _, hrun, hlogs.line rfl, fun _ => ⟨_, rfl⟩⟩

/-- A choice that is not barred is one of the current node, and is taken. -/
theorem choose_unbarred (setup : Setup α) (h : ¬Barred setup.story g.state index) :
    ∃ n c looked, g.currentNode? setup = some n ∧ choiceAt? n index = some c ∧ g.Logs looked ∧
      (choose setup index).run g = (takeChoice setup n index.toNat c).run looked := by
  cases hn : g.currentNode? setup with
  | none => exact absurd (.nowhere hn) h
  | some n =>
    cases hc : choiceAt? n index with
    | none => exact absurd (.absent hn (choiceAt?_eq_none.1 hc)) h
    | some c =>
      obtain ⟨looked, hlogs, hrun⟩ := choose_run hn hc
      have havailable : (n.availability g.state index.toNat c).available = true := by
        simpa using mt (barred_iff_of_choice hn hc).2 h
      rw [if_pos havailable] at hrun
      exact ⟨n, c, looked, rfl, hc, hlogs, hrun⟩

/-! ## Taking a choice -/

omit [Number α] in
theorem choiceTarget_run (setup : Setup α) (g : Game α) (n : Node α) (c : Choice α) (i : Nat)
    (report : Option EffectReport) :
    ∃ aimed, g.Logs aimed ∧ (choiceTarget setup n i c report).run g =
      (.ok (c.destination setup.story (report.bind EffectReport.goto)), aimed) := by
  unfold choiceTarget Choice.destination
  cases report.bind EffectReport.goto with
  | none => exact ⟨g, .refl g, rfl⟩
  | some target =>
    dsimp only
    rw [Option.filter_some]
    cases (setup.story.node? target).isSome with
    | true => exact ⟨g, .refl g, rfl⟩
    | false => exact ⟨_, (Game.Logs.refl g).line rfl, rfl⟩

/-- A game in which a choice has been told, and its effects applied and told. -/
structure Aimed (g : Game α) (c : Choice α) (i : Nat) (report : EffectReport) (scene : Scene α)
    (aimed : Game α) : Prop where
  state : aimed.state = scene.state
  active : aimed.active = g.active
  draws : aimed.draws = scene.draws
  clock : aimed.clock = scene.clock
  marks : aimed.marks = g.marks ++ .event (.choiceSelected c i) ::
    if c.effects.isEmpty then [] else [.event (.effectsApplied report)]

/-- Effects that come to an end are applied, if there are any, and told of. -/
theorem applyAny_run {effects : List (Effect α)} {report : EffectReport} {scene : Scene α}
    (h : (Effect.applyAll setup.story effects).run g.scene = (.ok report, scene)) :
    ∃ applied report?, (applyAny setup effects).run g = (.ok report?, applied) ∧
      report?.bind EffectReport.goto = report.goto ∧
      applied.state = scene.state ∧ applied.active = g.active ∧ applied.draws = scene.draws ∧
      applied.clock = scene.clock ∧ applied.marks = g.marks ++
        if effects.isEmpty then [] else [.event (.effectsApplied report)] := by
  unfold applyAny
  split
  · next hnone =>
    obtain rfl := List.isEmpty_iff.1 hnone
    cases h
    exact ⟨g, none, rfl, rfl, rfl, rfl, rfl, rfl, (List.append_nil _).symm⟩
  · have hrun : (applyEffects setup effects).run g =
        (.ok report, (g.leftBy scene).told (.effectsApplied report)) := by
      rw [applyEffects_run, h]
    refine ⟨(g.leftBy scene).told (.effectsApplied report), some report, ?_, rfl, rfl, rfl, rfl, rfl,
      (applyEffects_eq_ok hrun).marks⟩
    rw [Step.run_map, hrun]

/-- What is answered to a choice once the node that it leads to is entered, or there was no such node. -/
def taken (report : Option EffectReport) (target : String) (after : Game α) (found : Bool) :
    ChoiceResult :=
  { success := found, node := some after.state.currentNode, report
    error := if found then none else some ("Node not found: " ++ target) }

/-- A choice whose effects come to an end enters the node that it leads to. -/
theorem takeChoice_run {i : Nat} {report : EffectReport} {scene : Scene α}
    (h : (Effect.applyAll setup.story c.effects).run g.scene = (.ok report, scene)) :
    ∃ aimed report?, Aimed g c i report scene aimed ∧
      (takeChoice setup n i c).run g =
        match (enterNode setup (c.destination setup.story report.goto)).run aimed with
        | (.ok found, after) =>
          (.ok (taken report? (c.destination setup.story report.goto) after found), after)
        | (.error fault, after) => (.error fault, after) := by
  obtain ⟨applied, report?, happly, hgoto, hstate, hactive, hdraws, hclock, hmarks⟩ :=
    applyAny_run (g := g.told (.choiceSelected c i)) h
  obtain ⟨aimed, hlogs, htarget⟩ :=
    choiceTarget_run setup applied n c i report?
  rw [hgoto] at htarget
  refine ⟨aimed, report?, ?_, ?_⟩
  · obtain ⟨hsameState, hsameActive, hsameDraws, hsameClock⟩ := hlogs.frame
    refine ⟨hsameState.trans hstate, hsameActive.trans hactive, hsameDraws.trans hdraws,
      hsameClock.trans hclock, ?_⟩
    rw [hlogs.marks, hmarks, Game.marks_told, List.append_assoc]
    rfl
  · unfold takeChoice
    rw [Step.run_bind, emit_run]
    dsimp only
    rw [Step.run_bind, happly]
    dsimp only
    rw [Step.run_bind, htarget]
    dsimp only
    rw [Step.run_bind]
    rcases (enterNode setup (c.destination setup.story report.goto)).run aimed with ⟨_ | found, after⟩
    · rfl
    · cases found <;> rfl

end Play

/-! ## Turns -/

/-- A turn at which a choice is taken enters a node first, from a game in which the choice has been told and
its effects applied: all that comes of the turn is what comes of that. -/
def Turn.EntersFirst (setup : Setup α) (aimed : Game α) (target : String) (turn : Turn α)
    (after : Game α) : Prop :=
  ∃ result entered, (Play.enterNode setup target).run aimed = (result, entered) ∧
    after = { entered with notes := [] } ∧ turn.notes = entered.notes ∧
    match result with
    | .error fault => turn.reply = .error fault
    | .ok found => ∃ r, turn.reply = .ok (.chosen r) ∧ r.success = found ∧
      found = (setup.story.node? target).isSome ∧
      (found = true → ∃ marks, entered.marks = aimed.marks ++ marks ∧ Entered setup target entered marks) ∧
      (found = false → entered = aimed.logged [.nodeMissing target])

variable {setup : Setup α} {g after : Game α} {index : Int}

omit [Number α] in
theorem Game.Logs.cleared (h : Game.Logs { g with notes := [] } after) :
    { after with notes := [] } = { g with notes := [] } ∧ kinds after.notes = [] := by
  have hquiet : kinds after.notes = [] := by
    rw [← kinds_marks, h.marks]
    rfl
  obtain ⟨lines, rfl, -⟩ := h
  exact ⟨rfl, hquiet⟩

/-- A choice that is barred changes nothing, and is turned away if its position can be written. -/
theorem Barred.stays (h : Barred setup.story g.state index) :
    (g.move setup (.choose index)).2 = { g with notes := [] } ∧
      (Number.Legible (Number.whole index : α) → TurnedAway setup g index) := by
  obtain ⟨answer, after, hrun, hlogs, hanswer⟩ := Play.choose_barred (g := { g with notes := [] }) h
  obtain ⟨hsame, hquiet⟩ := hlogs.cleared
  have hmove := Game.move_run (m := .choose index) rfl hrun
  refine ⟨by rw [hmove]; exact hsame, fun hlegible => ?_⟩
  obtain ⟨reason, rfl⟩ := hanswer hlegible
  refine ⟨⟨.failure reason, ?_, rfl⟩, ?_, ?_, ?_⟩ <;> rw [hmove]
  · rfl
  · exact hquiet
  · exact hlogs.frame.1
  · exact hlogs.frame.2.1

/-- A choice that is not barred is told of, so that it is not turned away. -/
theorem TurnedAway.barred (h : TurnedAway setup g index) : Barred setup.story g.state index := by
  by_contra hfree
  obtain ⟨n, c, looked, -, -, hlogs, hchoose⟩ :=
    Play.choose_unbarred (g := { g with notes := [] }) setup hfree
  rcases hrun : (Play.takeChoice setup n index.toNat c).run looked with ⟨result, after⟩
  have hmove := Game.move_run (m := .choose index) rfl (hchoose.trans hrun)
  obtain ⟨⟨r, hreply, -⟩, hsilent, -, -⟩ := h
  rw [hmove] at hreply hsilent
  cases result with
  | error fault => cases hreply
  | ok r =>
    -- the choice has been told of before its effects, which is never taken back
    obtain ⟨target, aimed, henter, -, haimed⟩ := Play.takeChoice_eq_ok hrun
    obtain ⟨-, marks, hmarks, -⟩ := Play.enterNode_told henter
    have hsilent : kinds after.notes = [] := hsilent
    rw [← kinds_marks, hmarks, haimed, kinds_append, kinds_append] at hsilent
    simp [kinds, Note.kind?] at hsilent

/-- The choices that are shown are those of the current node, and the ones that nothing bars are shown as
available. -/
theorem look_shows (setup : Setup α) (g : Game α) :
    ∃ found, (g.move setup .look).1.reply = .ok (.offered found) ∧
      found.length = (g.currentNode? setup).elim 0 (·.choices.length) ∧
      ∀ (i : Nat) a, found[i]? = some a → (a.available = true ↔ ¬Barred setup.story g.state i) := by
  cases hn : g.currentNode? setup with
  | none =>
    rw [Game.move_run (m := .look) rfl (Play.choices_run_none (g := { g with notes := [] }) hn)]
    exact ⟨[], rfl, rfl, by simp⟩
  | some n =>
    obtain ⟨looked, -, hlook⟩ := Play.choices_run (g := { g with notes := [] }) hn
    rw [Game.move_run (m := .look) rfl hlook]
    refine ⟨n.availabilities g.state, rfl, Node.length_availabilities, fun i a ha => ?_⟩
    rw [Node.getElem?_availabilities] at ha
    obtain ⟨c, hc, rfl⟩ := Option.map_eq_some_iff.1 ha
    rw [Play.barred_iff_of_choice hn (Play.choiceAt?_eq_some.2 ⟨i, rfl, hc⟩), Int.toNat_natCast,
      Bool.not_eq_false]

/-- A choice that nothing bars is taken; if its effects come to an end, the node that it leads to is entered
first. -/
theorem choose_entersFirst (h : ¬Barred setup.story g.state index) :
    ∃ n c, g.currentNode? setup = some n ∧ Play.choiceAt? n index = some c ∧
      ∀ report scene, (Effect.applyAll setup.story c.effects).run g.scene = (.ok report, scene) →
        ∃ performed aimed,
          Effect.Performs setup.story g.scene c.effects performed scene ∧
          report.goto = performed.findSome? Effect.target? ∧
          Play.Aimed { g with notes := [] } c index.toNat report scene aimed ∧
          (g.move setup (.choose index)).1.EntersFirst setup aimed
            (c.destination setup.story report.goto) (g.move setup (.choose index)).2 := by
  obtain ⟨n, c, looked, hn, hc, hlogs, hchoose⟩ :=
    Play.choose_unbarred (g := { g with notes := [] }) setup h
  refine ⟨n, c, hn, hc, fun report scene happly => ?_⟩
  obtain ⟨performed, hperforms, hgoto⟩ := Effect.applyAll_performs happly
  obtain ⟨hstate, hactive, hdraws, hclock⟩ := hlogs.frame
  -- looking at the choices changes nothing that effects depend on
  have hscene : looked.scene = g.scene := by
    unfold Game.scene
    rw [hstate, hdraws, hclock]
  rw [← hscene] at happly
  obtain ⟨aimed, report?, haimed, htake⟩ :=
    Play.takeChoice_run (n := n) (i := index.toNat) happly
  have haimed : Play.Aimed { g with notes := [] } c index.toNat report scene aimed :=
    { haimed with active := haimed.active.trans hactive, marks := by rw [haimed.marks, hlogs.marks] }
  refine ⟨performed, aimed, hperforms, hgoto, haimed, ?_⟩
  rcases henter : (Play.enterNode setup (c.destination setup.story report.goto)).run aimed with
    ⟨_ | found, entered⟩
  · rw [henter] at htake
    rw [Game.move_run (m := .choose index) rfl (hchoose.trans htake)]
    exact ⟨_, entered, henter, rfl, rfl, rfl⟩
  · rw [henter] at htake
    rw [Game.move_run (m := .choose index) rfl (hchoose.trans htake)]
    obtain ⟨hfound, marks, hmarks, htold⟩ := Play.enterNode_told henter
    refine ⟨_, entered, henter, rfl, rfl, _, rfl, rfl, hfound, ?_, ?_⟩
    · rintro rfl
      exact ⟨marks, hmarks, htold⟩
    · rintro rfl
      have hmissing := Option.not_isSome_iff_eq_none.1 (Bool.eq_false_iff.1 hfound.symm)
      unfold Play.enterNode at henter
      rw [Play.enter_missing _ hmissing] at henter
      exact (Prod.mk.inj henter).2.symm

/-- A choice whose position can be written is turned away exactly if something bars it in the state before.
Nothing of the game is changed then, nor where the position is too long.  This is what is shown of it.  Any
other choice is taken, and if its effects come to an end, the first node that is entered is the one that the
first jump among the performed effects asks for, or the choice's own target if there is no such node.  Where
that target is missing too, none is entered, and the answer is a failure. -/
theorem choose_gated (setup : Setup α) (g : Game α) (index : Int) :
    let turn := (g.move setup (.choose index)).1
    let after := (g.move setup (.choose index)).2
    (Number.Legible (Number.whole index : α) →
      (TurnedAway setup g index ↔ Barred setup.story g.state index)) ∧
    (Barred setup.story g.state index → after = { g with notes := [] }) ∧
    (∃ found, (g.move setup .look).1.reply = .ok (.offered found) ∧
      found.length = (g.currentNode? setup).elim 0 (·.choices.length) ∧
      ∀ (i : Nat) a, found[i]? = some a → (a.available = true ↔ ¬Barred setup.story g.state i)) ∧
    (¬Barred setup.story g.state index →
      ∃ n c, g.currentNode? setup = some n ∧ Play.choiceAt? n index = some c ∧
        ∀ report scene, (Effect.applyAll setup.story c.effects).run g.scene = (.ok report, scene) →
          ∃ performed aimed,
            Effect.Performs setup.story g.scene c.effects performed scene ∧
            report.goto = performed.findSome? Effect.target? ∧
            Play.Aimed { g with notes := [] } c index.toNat report scene aimed ∧
            turn.EntersFirst setup aimed (c.destination setup.story report.goto) after) :=
  ⟨fun hlegible => ⟨TurnedAway.barred, fun h => h.stays.2 hlegible⟩, fun h => h.stays.1,
    look_shows setup g, choose_entersFirst⟩

/-! ## A crossing -/

/-- A crossing with three ways: up, where a draw from a loot table leads, over an abyss that is no node, and to
the moon, which is none either. -/
def Story.crossing : Story Amount where
  title := "The crossing"
  language := "en"
  version := "1"
  assets := []
  items := []
  currencies := []
  stats := []
  nodes :=
    [{ id := "crossing", part := 1, isEnding := false, title := "", text := "", media := []
       onEnter := none, puzzle := none
       choices :=
        [⟨"Climb", "end", none, [.lootTable [⟨.int 1, [.goto "tower"]⟩], .goto "end"], none⟩,
         ⟨"Leap", "end", none, [.goto "abyss", .goto "tower"], none⟩,
         ⟨"Fly", "moon", none, [], none⟩] },
     { id := "tower", part := 1, isEnding := true, title := "", text := "", media := []
       onEnter := none, puzzle := none, choices := [] },
     { id := "end", part := 1, isEnding := true, title := "", text := "", media := []
       onEnter := none, puzzle := none, choices := [] }]

/-- How a game is played at the crossing. -/
def Setup.crossing : Setup Amount :=
  { story := .crossing, scorer := .always (Scorer.standard Pattern.language) }

/-- The way up is not turned away and enters the tower, to which the first jump goes that is drawn. -/
theorem Story.crossing_gated :
    let setup := Setup.crossing
    let g := setup.newGame none (.always (.float 0.5)) (.always 0)
    TurnedAway setup g (-1) ∧ ¬TurnedAway setup g 0 ∧ ∃ aimed,
      (g.move setup (.choose 0)).1.EntersFirst setup aimed "tower" (g.move setup (.choose 0)).2 := by
  intro setup g
  have habsent : Barred setup.story g.state (-1) := .absent rfl (by decide)
  have hfree : ¬Barred setup.story g.state 0 := by
    rw [Play.barred_iff_of_choice (g := g) rfl rfl]
    decide +kernel
  obtain ⟨-, -, -, htaken⟩ := choose_gated setup g 0
  obtain ⟨n, c, hn, hc, htaken⟩ := htaken hfree
  cases hn
  cases hc
  have hgoto : ((Effect.applyAll setup.story
      [.lootTable [⟨.int 1, [.goto "tower"]⟩], .goto "end"]).run g.scene).1.toOption.map
        EffectReport.goto = some (some "tower") := by
    decide +kernel
  rcases hrun : (Effect.applyAll setup.story
      [.lootTable [⟨.int 1, [.goto "tower"]⟩], .goto "end"]).run g.scene with ⟨_ | report, scene⟩
  · rw [hrun] at hgoto
    cases hgoto
  · rw [hrun] at hgoto
    obtain ⟨performed, aimed, -, -, -, henters⟩ := htaken report scene hrun
    have hgated := fun i => (choose_gated setup g i).1
    refine ⟨(hgated (-1) (by decide +kernel)).2 habsent, mt (hgated 0 (by decide +kernel)).1 hfree, aimed, ?_⟩
    rw [Option.some.inj hgoto] at henters
    exact henters

/-- A choice is not always turned away where something bars it, and does not always enter a node where nothing
does: at a position too long to be written there is no answer, and nothing bars the way to the moon, which is
told of as chosen, but the game stays where it is. -/
theorem Story.crossing_loses :
    let setup := Setup.crossing
    let g := setup.newGame none (.always (.float 0.5)) (.always 0)
    let moon := g.move setup (.choose 2)
    Barred setup.story g.state Amount.longWhole ∧ ¬TurnedAway setup g Amount.longWhole ∧
      (g.move setup (.choose Amount.longWhole)).1.reply.toOption.isNone = true ∧
      ¬Barred setup.story g.state 2 ∧ kinds moon.1.notes = [.choiceSelected] ∧
      moon.1.reply = .ok (.chosen ⟨false, some "crossing", none, some "Node not found: moon"⟩) := by
  intro setup g moon
  have hfault : (g.move setup (.choose Amount.longWhole)).1.reply.toOption.isNone = true := by
    decide +kernel
  have hbarred : Barred setup.story g.state Amount.longWhole := by
    refine .absent rfl fun hrange => ?_
    have hlong : ¬Amount.longWhole < 3 := by decide +kernel
    exact hlong hrange.2
  refine ⟨hbarred, fun hturned => ?_, hfault, ?_, by decide +kernel, rfl⟩
  · obtain ⟨r, hreply, -⟩ := hturned.fails
    rw [hreply] at hfault
    cases hfault
  · rw [Play.barred_iff_of_choice (g := g) rfl rfl]
    decide +kernel

end StoryRules
