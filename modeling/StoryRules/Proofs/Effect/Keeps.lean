import StoryRules.Effect.Apply
import StoryRules.Proofs.Effect.Walk
import StoryRules.Proofs.Step

/-!
# What applying effects keeps

`Change` says what a single effect may make of a state, and `Misses` what it logs if the catalogs lack
what it names.  A property of scenes that bears with both, for every effect of a list at any depth of
its loot tables, is kept by the whole list, whatever is drawn; and so is a property of reports that
survives putting reports together.

    (∀ e ∈ walk effects, Bears story P J e) → Keeps P (applyAll story effects) J      (Lists.applyAll)
-/

namespace StoryRules.Effect

variable {α : Type} {P : Scene α → Prop} {J : EffectReport → Prop}

/-- What a property of scenes and one of reports have to bear besides a single effect. -/
structure Singles (P : Scene α → Prop) (J : EffectReport → Prop) : Prop where
  timed : ∀ scene clock, P scene → P { scene with clock }
  silent : ∀ report, report.goto = none → J report

/-- What they have to bear besides single effects, where effects come in lists. -/
structure Lists (P : Scene α → Prop) (J : EffectReport → Prop) : Prop extends Singles P J where
  drawn : ∀ scene draws, P scene → P { scene with draws }
  noted : ∀ scene line, P scene → line = .lootEmpty ∨ line = .lootWeightless →
    P { scene with log := scene.log ++ [line] }
  absorb : ∀ a b, J a → J b → J (a.absorb b)

theorem fail_keeps {line : LogLine}
    (h : ∀ scene, P scene → P { scene with log := scene.log ++ [line] })
    (hJ : J (.failure line.text)) : Keeps P (fail line) J := by
  unfold fail
  refine Keeps.bind (Keeps.update h) fun _ _ => ?_
  exact Keeps.pure hJ

/-- A change of the state is made in any case; its message is given if the numbers in it are written. -/
theorem alter_run (f : State α → State α) (message : Except Fault String) (scene : Scene α) :
    (alter f message).run scene =
      (message.map EffectReport.ok, { scene with state := f scene.state }) := by
  cases message <;> rfl

theorem alter_eq_ok {f : State α → State α} {message : Except Fault String} {scene after : Scene α}
    {report : EffectReport} : (alter f message).run scene = (.ok report, after) ↔
      ∃ text, message = .ok text ∧ report = .ok text ∧
        after = { scene with state := f scene.state } := by
  rw [alter_run, Prod.mk.injEq, map_eq_ok]
  constructor
  · rintro ⟨⟨text, htext, rfl⟩, rfl⟩
    exact ⟨text, htext, rfl, rfl⟩
  · rintro ⟨text, htext, rfl, rfl⟩
    exact ⟨⟨text, htext, rfl⟩, rfl⟩

variable [Number α] {story : Story α}

/-! ## Single effects -/

/-- What an effect that is no loot table may make of a state. -/
inductive Change (story : Story α) (s : State α) : Effect α → State α → Prop
  | added {id : String} {quantity : Int} {item : Item} : story.item? id = some item →
    Change story s (.addItem id quantity)
      { s with inventory := s.inventory.put id (clampQuantity item (s.quantity id + quantity)) }
  | removed {id : String} {quantity : Int} {item : Item} : story.item? id = some item →
    Change story s (.removeItem id quantity)
      { s with inventory := s.inventory.put id (clampQuantity item (s.quantity id + -quantity)) }
  | currency {id : String} {value total : α} : Number.add (s.currency id) value = .ok total →
    Change story s (.addCurrency id value)
      { s with currencies := s.currencies.put id (Number.larger (Number.whole 0) total) }
  | stat {id : String} {value total : α} {stat : Stat α} : story.stat? id = some stat →
    Number.add ((s.stats.get? id).getD stat.start) value = .ok total →
    Change story s (.addStat id value)
      { s with stats := s.stats.put id (Number.larger stat.min (Number.smaller stat.max total)) }
  | flag {name : String} {value : Bool} :
    Change story s (.setFlag name value) { s with flags := s.flags.put name value }
  | unlocked {node : String} {index : Int} : Change story s (.unlockChoice node index)
      { s with lockedChoices := s.lockedChoices.put node ((s.locks node).filter (· ≠ index)) }
  | locked {node : String} {index : Int} : Change story s (.lockChoice node index)
      { s with
        lockedChoices := s.lockedChoices.put node
          (if (s.locks node).contains index then s.locks node else s.locks node ++ [index]) }
  | timer {timer : String} {duration now : Int} : Change story s (.setTimer timer duration)
      { s with timers := s.timers.put timer (now + duration) }

/-- An effect leaves alone where the game stands, what was visited, and the records of puzzles. -/
theorem Change.frame {story : Story α} {e : Effect α} {s s' : State α} (h : Change story s e s') :
    s'.currentNode = s.currentNode ∧ s'.visited = s.visited ∧ s'.puzzles = s.puzzles := by
  cases h <;> exact ⟨rfl, rfl, rfl⟩

/-- What an effect logs if the catalogs lack what it names. -/
inductive Misses (story : Story α) : Effect α → LogLine → Prop
  | added {id : String} {quantity : Int} : story.item? id = none →
    Misses story (.addItem id quantity) (.itemMissing id)
  | removed {id : String} {quantity : Int} : story.item? id = none →
    Misses story (.removeItem id quantity) (.itemMissing id)
  | stat {id : String} {value : α} : story.stat? id = none →
    Misses story (.addStat id value) (.statMissing id)

/-- What a property has to bear of one effect. -/
structure Bears (story : Story α) (P : Scene α → Prop) (J : EffectReport → Prop) (e : Effect α) :
    Prop where
  change : ∀ scene s, P scene → Change story scene.state e s → P { scene with state := s }
  misses : ∀ scene line, P scene → Misses story e line → P { scene with log := scene.log ++ [line] }
  jumps : ∀ target, e = .goto target → ∀ report, report.goto = some target → J report

namespace Singles

variable (singles : Singles P J)

include singles

omit [Number α] in
/-- What an effect says in the end asks for no jump. -/
theorem told {scene : Scene α} {message : Except Fault String} (hs : P scene) :
    P scene ∧ ∀ report, message.map EffectReport.ok = .ok report → J report := by
  refine ⟨hs, fun report h => ?_⟩
  obtain ⟨text, -, rfl⟩ := map_eq_ok.1 h
  exact singles.silent _ rfl

omit [Number α] in
theorem alter {f : State α → State α} {message : Except Fault String}
    (change : ∀ scene, P scene → P { scene with state := f scene.state }) :
    Keeps P (alter f message) J := by
  intro scene hs
  rw [alter_run]
  exact singles.told (change scene hs)

theorem changeItem {id : String} {asked delta : Int} {words : Item → String → String → String}
    (change : ∀ scene item, P scene → story.item? id = some item →
      let quantity := clampQuantity item (scene.state.quantity id + delta)
      P { scene with
        state := { scene.state with inventory := scene.state.inventory.put id quantity } })
    (misses : ∀ scene, P scene → story.item? id = none →
      P { scene with log := scene.log ++ [.itemMissing id] }) :
    Keeps P (changeItem story id asked delta words) J := by
  unfold Effect.changeItem
  split
  · next hnone => exact fail_keeps (fun scene hs => misses scene hs hnone) (singles.silent _ rfl)
  · next item hitem =>
    refine Keeps.read fun scene hs => ?_
    rw [alter_run]
    exact singles.told (change scene item hs hitem)

omit [Number α] in
/-- An amount is changed if there is a total for it. -/
theorem altered {scene : Scene α} {sum : Except Fault α} {f : α → State α → State α}
    {message : α → Except Fault String} (hs : P scene)
    (change : ∀ total, sum = .ok total → P { scene with state := f total scene.state }) :
    let x := do
      let total ← orFault sum
      Effect.alter (f total) (message total)
    P (x.run scene).2 ∧ ∀ report, (x.run scene).1 = .ok report → J report := by
  cases sum with
  | error fault => exact ⟨hs, nofun⟩
  | ok total =>
    show P ((Effect.alter (f total) (message total)).run scene).2 ∧
      ∀ report, ((Effect.alter (f total) (message total)).run scene).1 = .ok report → J report
    rw [alter_run]
    exact singles.told (change total rfl)

theorem changeCurrency {id : String} {value : α}
    (change : ∀ scene total, P scene → Number.add (scene.state.currency id) value = .ok total →
      let amount := Number.larger (Number.whole 0) total
      P { scene with
        state := { scene.state with currencies := scene.state.currencies.put id amount } }) :
    Keeps P (changeCurrency id value) J := by
  unfold Effect.changeCurrency
  refine Keeps.read fun scene hs => ?_
  exact singles.altered hs fun total htotal => change scene total hs htotal

theorem changeStat {id : String} {value : α}
    (change : ∀ scene stat total, P scene → story.stat? id = some stat →
      Number.add ((scene.state.stats.get? id).getD stat.start) value = .ok total →
      let amount := Number.larger stat.min (Number.smaller stat.max total)
      P { scene with state := { scene.state with stats := scene.state.stats.put id amount } })
    (misses : ∀ scene, P scene → story.stat? id = none →
      P { scene with log := scene.log ++ [.statMissing id] }) :
    Keeps P (changeStat story id value) J := by
  unfold Effect.changeStat
  split
  · next hnone => exact fail_keeps (fun scene hs => misses scene hs hnone) (singles.silent _ rfl)
  · next stat hstat =>
    refine Keeps.read fun scene hs => ?_
    exact singles.altered hs fun total htotal => change scene stat total hs hstat htotal

/-- An effect that is no loot table keeps what bears with it. -/
theorem applySimple {e : Effect α} (bears : Bears story P J e) :
    Keeps P (applySimple story e) J := by
  cases e with
  | addItem id quantity =>
    unfold Effect.applySimple
    exact singles.changeItem (fun scene _ hs hitem => bears.change scene _ hs (.added hitem))
      fun scene hs hnone => bears.misses scene _ hs (.added hnone)
  | removeItem id quantity =>
    unfold Effect.applySimple
    exact singles.changeItem (fun scene _ hs hitem => bears.change scene _ hs (.removed hitem))
      fun scene hs hnone => bears.misses scene _ hs (.removed hnone)
  | addCurrency id value =>
    exact singles.changeCurrency fun scene _ hs htotal => bears.change scene _ hs (.currency htotal)
  | addStat id value =>
    exact singles.changeStat (fun scene _ _ hs hstat htotal =>
        bears.change scene _ hs (.stat hstat htotal))
      fun scene hs hnone => bears.misses scene _ hs (.stat hnone)
  | setFlag name value => exact singles.alter fun scene hs => bears.change scene _ hs .flag
  | log message => exact Keeps.pure (singles.silent _ rfl)
  | goto target => exact Keeps.pure (bears.jumps target rfl _ rfl)
  | unlockChoice node index =>
    exact singles.alter fun scene hs => bears.change scene _ hs .unlocked
  | lockChoice node index => exact singles.alter fun scene hs => bears.change scene _ hs .locked
  | setTimer timer duration =>
    unfold Effect.applySimple
    refine Keeps.read fun scene hs => ?_
    dsimp only [Feed.next]
    rw [Step.run_update_bind, alter_run]
    exact singles.told (bears.change _ _ (singles.timed scene _ hs) .timer)
  | lootTable table => exact Keeps.pure (singles.silent _ rfl)

end Singles

/-! ## Lists of effects -/

theorem applyOne_of_simple {e : Effect α} (h : ∀ table, e ≠ lootTable table) :
    applyOne story e = applySimple story e := by
  cases e with
  | lootTable table => exact absurd rfl (h table)
  | _ =>
    rw [applyOne]
    exact h

namespace Lists

variable (lists : Lists P J)

include lists

omit [Number α] in
theorem fail_loot {line : LogLine} (h : line = .lootEmpty ∨ line = .lootWeightless) :
    Keeps P (fail line) J :=
  fail_keeps (fun scene hs => lists.noted scene line hs h) (lists.silent _ rfl)

theorem drawEntry (table : List (LootEntry α)) :
    Keeps P (Effect.drawEntry table) fun _ => True := by
  unfold Effect.drawEntry
  refine Keeps.bind Keeps.get fun scene hscene => ?_
  refine Keeps.bind (Keeps.set (lists.drawn scene _ hscene)) fun _ _ => ?_
  exact Keeps.lift fun _ _ => trivial

theorem applyFrom {effects : List (Effect α)} (h : ∀ e ∈ effects, Keeps P (applyOne story e) J) :
    ∀ report, J report → Keeps P (applyFrom story report effects) J := by
  induction effects with
  | nil =>
    intro report hreport
    rw [Effect.applyFrom]
    exact Keeps.pure hreport
  | cons e rest ih =>
    intro report hreport
    rw [Effect.applyFrom]
    refine Keeps.bind (h e List.mem_cons_self) fun next hnext => ?_
    exact ih (fun x hx => h x (List.mem_cons_of_mem _ hx)) _ (lists.absorb report next hreport hnext)

theorem applyEntry {table : List (LootEntry α)}
    (h : ∀ entry ∈ table, ∀ e ∈ entry.item, Keeps P (applyOne story e) J) :
    ∀ i, Keeps P (applyEntry story table i) J := by
  induction table with
  | nil =>
    intro i
    rw [Effect.applyEntry]
    exact Keeps.pure (lists.silent _ rfl)
  | cons entry rest ih =>
    intro i
    cases i with
    | zero =>
      rw [Effect.applyEntry]
      exact lists.applyFrom (h entry List.mem_cons_self) _ (lists.silent _ rfl)
    | succ i =>
      rw [Effect.applyEntry]
      exact ih (fun x hx => h x (List.mem_cons_of_mem _ hx)) i

theorem applyOne {e : Effect α} :
    (∀ x ∈ walkOne e, Bears story P J x) → Keeps P (applyOne story e) J := by
  induction e using Effect.nested with
  | simple e hsimple =>
    intro h
    rw [applyOne_of_simple hsimple]
    exact lists.toSingles.applySimple (h e (mem_walkOne_self e))
  | loot table ih =>
    intro h
    have hentries : ∀ entry ∈ table, ∀ e ∈ entry.item, Keeps P (Effect.applyOne story e) J :=
      fun entry hentry e he => ih entry hentry e he fun x hx => h x (mem_walkOne_loot hentry he hx)
    rw [Effect.applyOne]
    split
    · exact lists.fail_loot (.inl rfl)
    · refine Keeps.bind (lists.drawEntry table) fun drawn _ => ?_
      cases drawn with
      | none => exact lists.fail_loot (.inr rfl)
      | some i =>
        refine Keeps.bind (lists.applyEntry hentries i) fun report hreport => ?_
        exact Keeps.pure (lists.absorb _ _ (lists.silent _ rfl) hreport)

/-- What bears with every effect of a list, nested ones included, is kept by the list. -/
theorem applyAll {effects : List (Effect α)} (h : ∀ e ∈ walk effects, Bears story P J e) :
    Keeps P (applyAll story effects) J := by
  refine lists.applyFrom (fun e he => lists.applyOne fun x hx => ?_) _ (lists.silent _ rfl)
  exact h x (mem_walk.2 ⟨e, he, hx⟩)

end Lists

end StoryRules.Effect
