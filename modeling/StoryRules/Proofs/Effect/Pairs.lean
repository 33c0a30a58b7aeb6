import StoryRules.Effect.Apply
import StoryRules.Proofs.Effect.Keeps
import StoryRules.Proofs.Effect.Walk
import StoryRules.Proofs.Step

/-!
# Effects in two scenes at once

Effects look at what is held in a state, at the clock and at the draws, and at nothing else.  Two scenes
that a relation pairs thus have the same effects reported alike and end in scenes that it pairs, if it pairs
only scenes with the same holdings and draws and bears with what effects do to them.

    ListPairs S → Agrees S (applyAll story effects) (applyAll story effects)      (ListPairs.applyAll)
-/

namespace StoryRules

variable {α : Type}

/-- The part of a state that effects work on, timers apart. -/
structure Holdings (α : Type) where
  inventory : Table Int
  currencies : Table α
  stats : Table α
  flags : Table Bool
  lockedChoices : Table (List Int)

def State.holdings (s : State α) : Holdings α where
  inventory := s.inventory
  currencies := s.currencies
  stats := s.stats
  flags := s.flags
  lockedChoices := s.lockedChoices

/-- The state with other holdings. -/
def State.holding (s : State α) (held : Holdings α) : State α :=
  { s with
    inventory := held.inventory
    currencies := held.currencies
    stats := held.stats
    flags := held.flags
    lockedChoices := held.lockedChoices }

/-- The scene where a timer has been set by the clock. -/
def Scene.timed (scene : Scene α) (timer : String) (duration : Int) : Scene α :=
  let (now, clock) := scene.clock.next
  { scene with
    state := { scene.state with timers := scene.state.timers.put timer (now + duration) }
    clock }

namespace Effect

theorem setTimer_run [Number α] (story : Story α) (timer : String) (duration : Int)
    (scene : Scene α) :
    (applySimple story (setTimer timer duration)).run scene =
      ((Number.wholeText α duration).map fun time =>
          EffectReport.ok ("Timer " ++ timer ++ " set to expire in " ++ time ++ "ms"),
        scene.timed timer duration) := by
  unfold applySimple
  rw [Step.run_get_bind]
  dsimp only [Feed.next]
  rw [Step.run_update_bind, alter_run]
  cases Number.wholeText α duration <;> rfl

/-- What a relation between scenes has to grant single effects. -/
structure Pairs (S : Scene α → Scene α → Prop) : Prop where
  sees : ∀ {s t}, S s t → s.state.holdings = t.state.holdings
  held : ∀ {s t} held, S s t →
    S { s with state := s.state.holding held } { t with state := t.state.holding held }
  noted : ∀ {s t} line, S s t → S { s with log := s.log ++ [line] } { t with log := t.log ++ [line] }
  timed : ∀ {s t} timer duration, S s t → S (s.timed timer duration) (t.timed timer duration)

/-- What it has to grant effects that come in lists. -/
structure ListPairs (S : Scene α → Scene α → Prop) : Prop extends Pairs S where
  draws : ∀ {s t}, S s t → s.draws = t.draws
  drawn : ∀ {s t} draws, S s t → S { s with draws } { t with draws }

variable {S : Scene α → Scene α → Prop}

/-! ## Single effects -/

namespace Pairs

variable (pairs : Pairs S)

include pairs

theorem fail (line : LogLine) : Agrees S (fail line : Run α EffectReport) (fail line) := by
  unfold Effect.fail
  exact Agrees.bind (Agrees.update fun _ _ h => pairs.noted line h) fun _ => .pure _

/-- A change of what is held, by what is held. -/
theorem alter {f : State α → State α} (g : Holdings α → Holdings α)
    (hf : ∀ s, f s = s.holding (g s.holdings)) (message : Except Fault String) :
    Agrees S (alter f message) (alter f message) := by
  intro s t h
  rw [alter_run, alter_run, hf, hf, pairs.sees h]
  exact ⟨rfl, pairs.held _ h⟩

variable {story : Story α} [Number α]

theorem changeItem {id : String} {asked delta : Int} {words : Item → String → String → String} :
    Agrees S (changeItem story id asked delta words) (changeItem story id asked delta words) := by
  unfold Effect.changeItem
  split
  · exact pairs.fail _
  · refine Agrees.get_bind fun s t h => ?_
    have hquantity : s.state.quantity id = t.state.quantity id :=
      congrArg (fun held : Holdings α => (held.inventory.get? id).getD 0) (pairs.sees h)
    rw [hquantity]
    exact pairs.alter (fun held => { held with inventory := held.inventory.put id _ })
      (fun _ => rfl) _

theorem changeCurrency {id : String} {value : α} :
    Agrees S (changeCurrency id value) (changeCurrency id value) := by
  unfold Effect.changeCurrency
  refine Agrees.get_bind fun s t h => ?_
  have hcurrency : s.state.currency id = t.state.currency id :=
    congrArg (fun held : Holdings α => (held.currencies.get? id).getD (Number.whole 0)) (pairs.sees h)
  rw [hcurrency]
  refine Agrees.bind (Agrees.lift _) fun total => ?_
  exact pairs.alter (fun held => { held with currencies := held.currencies.put id _ })
    (fun _ => rfl) _

theorem changeStat {id : String} {value : α} :
    Agrees S (changeStat story id value) (changeStat story id value) := by
  unfold Effect.changeStat
  split
  · exact pairs.fail _
  · refine Agrees.get_bind fun s t h => ?_
    have hstats : s.state.stats = t.state.stats := congrArg Holdings.stats (pairs.sees h)
    rw [hstats]
    refine Agrees.bind (Agrees.lift _) fun total => ?_
    exact pairs.alter (fun held => { held with stats := held.stats.put id _ }) (fun _ => rfl) _

/-- An effect that is no loot table looks at what is held and at the clock alone. -/
theorem applySimple (story : Story α) (e : Effect α) :
    Agrees S (applySimple story e) (applySimple story e) := by
  cases e with
  | addItem id quantity =>
    unfold Effect.applySimple
    exact pairs.changeItem
  | removeItem id quantity =>
    unfold Effect.applySimple
    exact pairs.changeItem
  | addCurrency id value => exact pairs.changeCurrency
  | addStat id value => exact pairs.changeStat
  | setFlag name value =>
    exact pairs.alter (fun held => { held with flags := held.flags.put name value }) (fun _ => rfl) _
  | log message => exact .pure _
  | goto target => exact .pure _
  | unlockChoice node index =>
    exact pairs.alter (fun held => { held with
      lockedChoices := held.lockedChoices.put node
        (((held.lockedChoices.get? node).getD []).filter (· ≠ index)) }) (fun _ => rfl) _
  | lockChoice node index =>
    exact pairs.alter (fun held => { held with
      lockedChoices := held.lockedChoices.put node
        (let locks := (held.lockedChoices.get? node).getD []
        if locks.contains index then locks else locks ++ [index]) }) (fun _ => rfl) _
  | setTimer timer duration =>
    intro s t h
    rw [setTimer_run, setTimer_run]
    exact ⟨rfl, pairs.timed timer duration h⟩
  | lootTable table => exact .pure _

end Pairs

/-! ## Lists of effects -/

variable [Number α] {story : Story α}

theorem applyFrom_agrees {effects : List (Effect α)}
    (h : ∀ e ∈ effects, Agrees S (applyOne story e) (applyOne story e)) :
    ∀ report, Agrees S (applyFrom story report effects) (applyFrom story report effects) := by
  induction effects with
  | nil =>
    intro report
    rw [applyFrom]
    exact .pure report
  | cons e rest ih =>
    intro report
    rw [applyFrom]
    refine Agrees.bind (h e List.mem_cons_self) fun next => ?_
    exact ih (fun x hx => h x (List.mem_cons_of_mem _ hx)) _

theorem applyEntry_agrees {table : List (LootEntry α)}
    (h : ∀ entry ∈ table, ∀ e ∈ entry.item, Agrees S (applyOne story e) (applyOne story e)) :
    ∀ i, Agrees S (applyEntry story table i) (applyEntry story table i) := by
  induction table with
  | nil =>
    intro i
    rw [applyEntry]
    exact .pure _
  | cons entry rest ih =>
    intro i
    cases i with
    | zero =>
      rw [applyEntry]
      exact applyFrom_agrees (h entry List.mem_cons_self) _
    | succ i =>
      rw [applyEntry]
      exact ih (fun x hx => h x (List.mem_cons_of_mem _ hx)) i

namespace ListPairs

variable (pairs : ListPairs S)

include pairs

theorem drawEntry (table : List (LootEntry α)) :
    Agrees S (drawEntry table) (drawEntry table) := by
  unfold Effect.drawEntry
  refine Agrees.get_bind fun s t h => ?_
  rw [pairs.draws h]
  exact Agrees.bind (Agrees.set (pairs.drawn _ h)) fun _ => Agrees.lift _

theorem applyOne (story : Story α) (e : Effect α) : Agrees S (applyOne story e) (applyOne story e) := by
  induction e using Effect.nested with
  | simple e hsimple =>
    rw [applyOne_of_simple hsimple]
    exact pairs.applySimple story e
  | loot table ih =>
    rw [Effect.applyOne]
    split
    · exact pairs.fail _
    · refine Agrees.bind (pairs.drawEntry table) fun drawn => ?_
      cases drawn with
      | none => exact pairs.fail _
      | some i => exact Agrees.bind (applyEntry_agrees ih i) fun report => .pure _

theorem applyAll (story : Story α) (effects : List (Effect α)) :
    Agrees S (applyAll story effects) (applyAll story effects) :=
  applyFrom_agrees (fun e _ => pairs.applyOne story e) _

end ListPairs

end Effect

end StoryRules
