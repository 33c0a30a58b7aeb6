import StoryRules.Proofs.Effect.Attempts
import StoryRules.Proofs.Effect.Cells

/-!
# The last writer wins

A flag, a timer and the lock of a choice say what the last executed effect that is about them made them say, and
what they said before if there is none.  Effects that are drawn from a loot table count as executed in its place.
While choices are locked and unlocked, no choice of a node gets locked twice.

    t.flags.get? name = (latest (flagSet? name) executed).or (s.flags.get? name)      (applyAll_latest)
-/

namespace StoryRules

variable {α : Type}

/-- Every list of locked choices has each choice once. -/
def State.LocksDistinct (s : State α) : Prop := ∀ entry ∈ s.lockedChoices, entry.2.Nodup

namespace Effect

/-! ## Last writes -/

section

variable {β : Type}

/-- What is written by the last of some effects that writes. -/
def latest (writes : Effect α → Option β) (executed : List (Effect α)) : Option β :=
  executed.reverse.findSome? writes

theorem latest_append (writes : Effect α → Option β) (executed later : List (Effect α)) :
    latest writes (executed ++ later) = (latest writes later).or (latest writes executed) := by
  unfold latest
  rw [List.reverse_append, List.findSome?_append]

theorem latest_singleton (writes : Effect α → Option β) (e : Effect α) : latest writes [e] = writes e := by
  unfold latest
  rw [List.reverse_singleton, List.findSome?_singleton]

end

/-- The value that an effect gives a flag. -/
def flagSet? (name : String) : Effect α → Option Bool
  | .setFlag flag value => if flag = name then some value else none
  | _ => none

/-- How long from now an effect has a timer run. -/
def timerSet? (name : String) : Effect α → Option Int
  | .setTimer timer duration => if timer = name then some duration else none
  | _ => none

/-- Whether an effect leaves a choice locked, if it is about its lock. -/
def lockSet? (node : String) (index : Int) : Effect α → Option Bool
  | .lockChoice n i => if n = node ∧ i = index then some true else none
  | .unlockChoice n i => if n = node ∧ i = index then some false else none
  | _ => none

/-- Flags, timers and locks are as the last writers among the executed effects left them. -/
structure LastWrites (now : Int) (executed : List (Effect α)) (s t : State α) : Prop where
  flag : ∀ name, t.flags.get? name = (latest (flagSet? name) executed).or (s.flags.get? name)
  timer : ∀ name, t.timers.get? name =
    ((latest (timerSet? name) executed).map (now + ·)).or (s.timers.get? name)
  lock : ∀ node index, t.isLocked node index =
    (latest (lockSet? node index) executed).getD (s.isLocked node index)

namespace LastWrites

variable {now : Int} {executed later : List (Effect α)} {s t u : State α}

theorem nothing (s : State α) : LastWrites now [] s s := ⟨fun _ => rfl, fun _ => rfl, fun _ _ => rfl⟩

theorem trans (h : LastWrites now executed s t) (h' : LastWrites now later t u) :
    LastWrites now (executed ++ later) s u where
  flag name := by rw [h'.flag, h.flag, latest_append, Option.or_assoc]
  timer name := by
    rw [h'.timer, h.timer, latest_append, ← Option.or_assoc]
    cases latest (timerSet? name) later <;> rfl
  lock node index := by
    rw [h'.lock, h.lock, latest_append]
    cases latest (lockSet? node index) later <;> rfl

end LastWrites

/-! ## One attempt -/

variable [Number α] {story : Story α} {now : Int} {scene after : Scene α}

theorem changeItem_kept {id : String} {asked delta : Int} {words : Item → String → String → String}
    {report : EffectReport}
    (h : (changeItem story id asked delta words).run scene = (.ok report, after)) :
    ∃ inventory log, after = { scene with state := { scene.state with inventory }, log } := by
  unfold changeItem at h
  split at h
  · cases h
    exact ⟨_, _, rfl⟩
  · rw [Step.run_get_bind] at h
    obtain ⟨-, -, -, rfl⟩ := alter_eq_ok.1 h
    exact ⟨_, _, rfl⟩

theorem changeCurrency_kept {id : String} {value : α} {report : EffectReport}
    (h : (changeCurrency id value).run scene = (.ok report, after)) :
    ∃ currencies, after = { scene with state := { scene.state with currencies } } := by
  rw [changeCurrency, Step.run_get_bind] at h
  obtain ⟨total, middle, htotal, h⟩ := Step.run_bind_eq_ok.1 h
  rw [orFault, Step.run_lift] at htotal
  obtain rfl := (Prod.mk.inj htotal).2
  obtain ⟨-, -, -, rfl⟩ := alter_eq_ok.1 h
  exact ⟨_, rfl⟩

theorem changeStat_kept {id : String} {value : α} {report : EffectReport}
    (h : (changeStat story id value).run scene = (.ok report, after)) :
    ∃ stats log, after = { scene with state := { scene.state with stats }, log } := by
  unfold changeStat at h
  split at h
  · cases h
    exact ⟨_, _, rfl⟩
  · rw [Step.run_get_bind] at h
    obtain ⟨total, middle, htotal, h⟩ := Step.run_bind_eq_ok.1 h
    rw [orFault, Step.run_lift] at htotal
    obtain rfl := (Prod.mk.inj htotal).2
    obtain ⟨-, -, -, rfl⟩ := alter_eq_ok.1 h
    exact ⟨_, _, rfl⟩

/-- An effect that is no loot table. -/
theorem applySimple_lastWrites {e : Effect α} {report : EffectReport}
    (hclock : ∀ n, scene.clock.value n = now)
    (h : (applySimple story e).run scene = (.ok report, after)) :
    LastWrites now [e] scene.state after.state ∧ after.clock.value = scene.clock.value := by
  cases e with
  | addItem id quantity =>
    unfold applySimple at h
    obtain ⟨inventory, log, rfl⟩ := changeItem_kept h
    exact ⟨⟨fun _ => rfl, fun _ => rfl, fun _ _ => rfl⟩, rfl⟩
  | removeItem id quantity =>
    unfold applySimple at h
    obtain ⟨inventory, log, rfl⟩ := changeItem_kept h
    exact ⟨⟨fun _ => rfl, fun _ => rfl, fun _ _ => rfl⟩, rfl⟩
  | addCurrency id value =>
    obtain ⟨currencies, rfl⟩ := changeCurrency_kept h
    exact ⟨⟨fun _ => rfl, fun _ => rfl, fun _ _ => rfl⟩, rfl⟩
  | addStat id value =>
    obtain ⟨stats, log, rfl⟩ := changeStat_kept h
    exact ⟨⟨fun _ => rfl, fun _ => rfl, fun _ _ => rfl⟩, rfl⟩
  | setFlag flag value =>
    unfold applySimple at h
    obtain ⟨-, -, -, rfl⟩ := alter_eq_ok.1 h
    refine ⟨⟨fun name => ?_, fun _ => rfl, fun _ _ => rfl⟩, rfl⟩
    rw [latest_singleton, flagSet?]
    show (Table.put _ _ _).get? name = _
    rw [Table.get?_put]
    split <;> rfl
  | setTimer timer duration =>
    rw [setTimer_run] at h
    obtain rfl := (Prod.mk.inj h).2
    refine ⟨⟨fun _ => rfl, fun name => ?_, fun _ _ => rfl⟩, rfl⟩
    rw [latest_singleton, timerSet?]
    show (Table.put _ _ (scene.clock.value _ + duration)).get? name = _
    rw [Table.get?_put, hclock]
    split <;> rfl
  | unlockChoice n i =>
    unfold applySimple at h
    obtain ⟨-, -, -, rfl⟩ := alter_eq_ok.1 h
    refine ⟨⟨fun _ => rfl, fun _ => rfl, fun node index => ?_⟩, rfl⟩
    rw [latest_singleton, lockSet?]
    refine (scene.state.isLocked_unlock n node i index).trans ?_
    split <;> rfl
  | lockChoice n i =>
    unfold applySimple at h
    obtain ⟨-, -, -, rfl⟩ := alter_eq_ok.1 h
    refine ⟨⟨fun _ => rfl, fun _ => rfl, fun node index => ?_⟩, rfl⟩
    rw [latest_singleton, lockSet?]
    refine (scene.state.isLocked_lock n node i index).trans ?_
    split <;> rfl
  | _ =>
    cases h
    exact ⟨⟨fun _ => rfl, fun _ => rfl, fun _ _ => rfl⟩, rfl⟩

theorem Tried.lastWrites {e : Effect α} {report : EffectReport} {opened : List (Effect α)}
    (hclock : ∀ n, scene.clock.value n = now) (h : Tried story scene e report opened after) :
    LastWrites now [e] scene.state after.state ∧ after.clock.value = scene.clock.value := by
  -- a draw changes the draws that are left, and nothing else
  have hdrawn : ∀ {table : List (LootEntry α)} {drawn : Option Nat} {middle : Scene α},
      (drawEntry table).run scene = (.ok drawn, middle) → ∃ draws, { scene with draws } = middle := by
    intro table drawn middle hdraw
    rw [run_drawEntry] at hdraw
    exact ⟨_, (Prod.mk.inj hdraw).2⟩
  have htable : ∀ table : List (LootEntry α), LastWrites now [.lootTable table] scene.state scene.state :=
    fun _ => ⟨fun _ => rfl, fun _ => rfl, fun _ _ => rfl⟩
  cases h with
  | simple _ hrun => exact applySimple_lastWrites hclock hrun
  | empty => exact ⟨htable _, rfl⟩
  | nothing hdraw =>
    obtain ⟨draws, rfl⟩ := hdrawn hdraw
    exact ⟨htable _, rfl⟩
  | drawn hdraw =>
    obtain ⟨draws, rfl⟩ := hdrawn hdraw
    exact ⟨htable _, rfl⟩

/-! ## Runs -/

/-- While the clock stands still, attempts leave what the last writers among them wrote. -/
theorem Attempts.lastWrites {pending left : List (Effect α)} {attempts : List (Attempt α)}
    (h : Attempts story scene pending attempts after left) (hclock : ∀ n, scene.clock.value n = now) :
    LastWrites now (attempts.map Attempt.effect) scene.state after.state := by
  induction h with
  | stay => exact .nothing _
  | next hrun _ ih =>
    obtain ⟨hfirst, hsame⟩ := (attempt_tried hrun).lastWrites hclock
    exact hfirst.trans (ih fun n => hsame ▸ hclock n)

/-- A single effect locks no choice twice. -/
theorem Change.locksDistinct {e : Effect α} {s t : State α} (h : Change story s e t)
    (hs : s.LocksDistinct) : t.LocksDistinct := by
  have hlocks : ∀ node, (s.locks node).Nodup := by
    intro node
    unfold State.locks
    cases hget : s.lockedChoices.get? node with
    | none => exact List.nodup_nil
    | some locks => exact hs _ (Table.mem_of_get? hget)
  have hput : ∀ {node : String} {locks : List Int}, locks.Nodup → (s.setLocks node locks).LocksDistinct := by
    intro node locks hnodup entry hentry
    rcases Table.mem_put hentry with rfl | hentry
    · exact hnodup
    · exact hs entry hentry
  cases h with
  | unlocked => exact hput ((hlocks _).filter _)
  | @locked node index =>
    refine hput ?_
    split
    · exact hlocks node
    · next hnew =>
      rw [List.contains_iff_mem] at hnew
      refine List.nodup_append.2 ⟨hlocks node, List.nodup_singleton index, fun i hi j hj => ?_⟩
      rintro rfl
      exact hnew (List.mem_singleton.1 hj ▸ hi)
  | _ => exact hs

theorem applyAll_locksDistinct (story : Story α) (effects : List (Effect α)) (scene : Scene α)
    (h : scene.state.LocksDistinct) : ((applyAll story effects).run scene).2.state.LocksDistinct := by
  have lists : Lists (fun now : Scene α => now.state.LocksDistinct) fun _ => True :=
    { timed := fun _ _ h => h
      silent := fun _ _ => trivial
      drawn := fun _ _ h => h
      noted := fun _ _ h _ => h
      absorb := fun _ _ _ _ => trivial }
  have hbears : ∀ e ∈ walk effects, Bears story (fun now => now.state.LocksDistinct) (fun _ => True) e :=
    fun _ _ =>
      { change := fun _ _ h hchange => hchange.locksDistinct h
        misses := fun _ _ h _ => h
        jumps := fun _ _ _ _ => trivial }
  exact (lists.applyAll hbears scene h).1

/-- The effects that a list comes to are determined by the scene it is applied in.  While the clock stands still,
flags, timers and locks are in the end as the last of these effects that are about them left them, or as they
were, and no choice is locked twice if none was. -/
theorem applyAll_latest (story : Story α) {effects : List (Effect α)} {scene after : Scene α}
    {report : EffectReport} {now : Int} (hclock : ∀ n, scene.clock.value n = now)
    (h : (applyAll story effects).run scene = (.ok report, after)) :
    ∃ attempts, Attempts story scene effects attempts after [] ∧
      (∀ others last, Attempts story scene effects others last [] → others = attempts) ∧
      LastWrites now (attempts.map Attempt.effect) scene.state after.state ∧
      (scene.state.LocksDistinct → after.state.LocksDistinct) := by
  have hdistinct := applyAll_locksDistinct story effects scene
  have hends := applyAll_ends story effects scene
  rw [h] at hends hdistinct
  cases hends with
  | @finished attempts _ _ hattempts _ =>
    exact ⟨attempts, hattempts, fun others last h' => (hattempts.unique h').1,
      hattempts.lastWrites hclock, hdistinct⟩

/-- Writes that are overtaken, some of them by what is drawn from a loot table. -/
def overtaken : List (Effect Amount) :=
  [.setFlag "lit" true, .lockChoice "gate" 0, .setTimer "lamp" 5, .lockChoice "gate" 1, .lockChoice "gate" 1,
    .lootTable [⟨.int 0, []⟩, ⟨.int 1, [.unlockChoice "gate" 0, .setTimer "lamp" 50]⟩], .setFlag "lit" false]

theorem overtaken_latest :
    let scene : Scene Amount :=
      { state := State.initial .riddle none, draws := .always (.float 0.5), clock := .always 1000 }
    ∃ report after, (applyAll Story.riddle overtaken).run scene = (.ok report, after) ∧
      after.state.flags.get? "lit" = some false ∧ after.state.timers.get? "lamp" = some 1050 ∧
      after.state.locks "gate" = [1] ∧
      ∃ attempts, Attempts Story.riddle scene overtaken attempts after [] ∧
        (∀ others last, Attempts Story.riddle scene overtaken others last [] → others = attempts) ∧
        LastWrites 1000 (attempts.map Attempt.effect) scene.state after.state ∧
        (scene.state.LocksDistinct → after.state.LocksDistinct) := by
  intro scene
  have hstate : (((applyAll Story.riddle overtaken).run scene).1.toOption.isSome,
      ((applyAll Story.riddle overtaken).run scene).2.state.flags.get? "lit",
      ((applyAll Story.riddle overtaken).run scene).2.state.timers.get? "lamp",
      ((applyAll Story.riddle overtaken).run scene).2.state.locks "gate") =
        (true, some false, some 1050, [1]) := by
    decide +kernel
  rcases hrun : (applyAll Story.riddle overtaken).run scene with ⟨_ | report, after⟩
  · rw [hrun] at hstate
    cases (Prod.mk.inj hstate).1
  · rw [hrun] at hstate
    obtain ⟨-, hstate⟩ := Prod.mk.inj hstate
    obtain ⟨hflag, hstate⟩ := Prod.mk.inj hstate
    obtain ⟨htimer, hlocks⟩ := Prod.mk.inj hstate
    exact ⟨report, after, rfl, hflag, htimer, hlocks, applyAll_latest Story.riddle (fun _ => rfl) hrun⟩

end Effect

end StoryRules
