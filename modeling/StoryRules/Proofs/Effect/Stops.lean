import StoryRules.Proofs.Amount.Clashes
import StoryRules.Proofs.Effect.Attempts

/-!
# What stops a list of effects

An effect that cannot be done is reported, and the effects behind it are attempted all the same.  What stops a
list is arithmetic, an amount that meets a huge whole number or a loot table whose weights do not add up, and a
number that is too long for the message about it.  Where the draws are floating numbers, a list comes to its
end, with every effect attempted, just if no such effect has its turn.

    (∃ report after, (applyAll story effects).run scene = (.ok report, after)) ↔
      ∀ attempts middle e left, Attempts story scene effects attempts middle (e :: left) →
        ¬ Stuck story middle.state e      (applyAll_returns)
-/

namespace StoryRules

/-- What is drawn are floating numbers. -/
def Feed.Floating (draws : Feed Amount) : Prop := ∀ n, ∃ x, draws.value n = .float x

/-- A draw changes how many values were handed out, not which. -/
theorem Draw.pick_value {α : Type} [Number α] (weights : List α) (draws : Feed α) :
    (pick weights draws).2.value = draws.value := by
  unfold pick
  dsimp only
  split
  · rfl
  · split <;> rfl

namespace Effect

/-- A message of two numbers is not given, since one of them is too long to be written. -/
def Untold (first second : Amount) : Prop := ¬ (Number.Legible first ∧ Number.Legible second)

/-- A value that is not added: it clashes with the current amount, or what comes of the total is not told. -/
def Unadded (current value : Amount) (kept : Amount → Amount) : Prop :=
  current.Clashes value ∨ ∃ total, Number.add current value = .ok total ∧ Untold current (kept total)

/-- An effect that does not come to an end: an amount clashes with the one that it is added to, the weights to
draw from do not add up, or a number is too long for the message. -/
def Stuck (story : Story Amount) (s : State Amount) : Effect Amount → Prop
  | addItem id n => ∃ item, story.item? id = some item ∧
      Untold (Number.whole n) (Number.whole (clampQuantity item (s.quantity id + n)))
  | removeItem id n => ∃ item, story.item? id = some item ∧
      Untold (Number.whole n) (Number.whole (clampQuantity item (s.quantity id + -n)))
  | addCurrency id value => Unadded (s.currency id) value (Number.larger (Number.whole 0))
  | addStat id value => ∃ stat, story.stat? id = some stat ∧
      Unadded ((s.stats.get? id).getD stat.start) value fun total =>
        Number.larger stat.min (Number.smaller stat.max total)
  | lockChoice _ index | unlockChoice _ index => ¬ Number.Legible (Number.whole index : Amount)
  | setTimer _ duration => ¬ Number.Legible (Number.whole duration : Amount)
  | lootTable table => ¬ Amount.AddUp (table.map Weighted.weight)
  | _ => False

variable {story : Story Amount}

/-! ## One attempt -/

/-- A change is made, and comes to an end just if it is told of. -/
theorem alter_ok_iff {f : State Amount → State Amount} {message : Except Fault String} {p : Prop}
    (hwritten : Written message p) (scene : Scene Amount) :
    (∃ report after, (alter f message).run scene = (.ok report, after)) ↔ p := by
  rw [← hwritten.ok_iff]
  constructor
  · rintro ⟨report, after, h⟩
    obtain ⟨text, htext, -⟩ := alter_eq_ok.1 h
    exact ⟨text, htext⟩
  · rintro ⟨text, htext⟩
    exact ⟨_, _, alter_eq_ok.2 ⟨text, htext, rfl, rfl⟩⟩

theorem changeItem_ok_iff (id : String) (asked delta : Int) (words : Item → String → String → String)
    (scene : Scene Amount) :
    (∃ report after, (changeItem story id asked delta words).run scene = (.ok report, after)) ↔
      ¬ ∃ item, story.item? id = some item ∧ Untold (Number.whole asked)
        (Number.whole (clampQuantity item (scene.state.quantity id + delta))) := by
  unfold changeItem
  cases hitem : story.item? id with
  | none => exact iff_of_true ⟨_, _, rfl⟩ (by rintro ⟨_, ⟨⟩, _⟩)
  | some item =>
    simp only [Option.some.injEq, exists_eq_left', Untold, not_not]
    rw [Step.run_get_bind]
    exact alter_ok_iff ((Written.number _).told (.number _) _) scene

/-- A value is added and told of just if nothing keeps it from being. -/
theorem add_ok_iff {current value : Amount} {f : Amount → State Amount → State Amount}
    {kept : Amount → Amount} {words : String → String → String} (scene : Scene Amount) :
    (∃ report after, (orFault (Number.add current value) >>= fun total =>
        alter (f total) (told (Number.text current) (Number.text (kept total)) words)).run scene =
          (.ok report, after)) ↔ ¬ Unadded current value kept := by
  have hclashes : ¬ current.Clashes value ↔ ∃ total, Number.add current value = .ok total :=
    (Amount.combine_ok_iff _ _ current value).symm
  unfold Unadded
  rw [not_or, hclashes]
  cases hsum : Number.add current value with
  | error fault => exact iff_of_false (by rintro ⟨_, _, ⟨⟩⟩) (by simp)
  | ok total =>
    rw [orFault, Step.run_ok_bind, alter_ok_iff ((Written.number _).told (.number _) _)]
    simp [Untold]

theorem changeCurrency_ok_iff (id : String) (value : Amount) (scene : Scene Amount) :
    (∃ report after, (changeCurrency id value).run scene = (.ok report, after)) ↔
      ¬ Unadded (scene.state.currency id) value (Number.larger (Number.whole 0)) := by
  rw [changeCurrency, Step.run_get_bind]
  exact add_ok_iff scene

theorem changeStat_ok_iff (id : String) (value : Amount) (scene : Scene Amount) :
    (∃ report after, (changeStat story id value).run scene = (.ok report, after)) ↔
      ¬ ∃ stat, story.stat? id = some stat ∧
        Unadded ((scene.state.stats.get? id).getD stat.start) value fun total =>
          Number.larger stat.min (Number.smaller stat.max total) := by
  unfold changeStat
  cases hstat : story.stat? id with
  | none => exact iff_of_true ⟨_, _, rfl⟩ (by rintro ⟨_, ⟨⟩, _⟩)
  | some stat =>
    simp only [Option.some.injEq, exists_eq_left']
    rw [Step.run_get_bind]
    exact add_ok_iff scene

/-- An effect that is no loot table comes to an end just if it is not stuck. -/
theorem applySimple_ok_iff {e : Effect Amount} (he : e.isLoot = false) (scene : Scene Amount) :
    (∃ report after, (applySimple story e).run scene = (.ok report, after)) ↔
      ¬ Stuck story scene.state e := by
  cases e with
  | addItem id n => exact changeItem_ok_iff id n n _ scene
  | removeItem id n => exact changeItem_ok_iff id n (-n) _ scene
  | addCurrency id value => exact changeCurrency_ok_iff id value scene
  | addStat id value => exact changeStat_ok_iff id value scene
  | lockChoice node index | unlockChoice node index =>
    rw [applySimple, alter_ok_iff ((Written.whole _).map _), Stuck, not_not]
  | setTimer timer duration =>
    rw [applySimple, Step.run_get_bind]
    dsimp only
    rw [Step.run_update_bind, alter_ok_iff ((Written.whole _).map _), Stuck, not_not]
  | setFlag name value => exact iff_of_true ⟨_, _, rfl⟩ id
  | log message => exact iff_of_true ⟨_, _, rfl⟩ id
  | goto target => exact iff_of_true ⟨_, _, rfl⟩ id
  | lootTable table => cases he

theorem drawEntry_ok_iff (table : List (LootEntry Amount)) {scene : Scene Amount}
    (hdraws : scene.draws.Floating) :
    (∃ drawn after, (drawEntry table).run scene = (.ok drawn, after)) ↔
      Amount.AddUp (table.map Weighted.weight) := by
  obtain ⟨x, hx⟩ := hdraws scene.draws.used
  rw [run_drawEntry, ← Amount.pick_ok_iff hx]
  constructor
  · rintro ⟨drawn, after, h⟩
    exact ⟨drawn, congrArg Prod.fst h⟩
  · rintro ⟨drawn, h⟩
    exact ⟨drawn, _, congrArg (·, _) h⟩

/-- An attempt comes to an end just if the effect is not stuck. -/
theorem attempt_ok_iff (e : Effect Amount) {scene : Scene Amount} (hdraws : scene.draws.Floating) :
    (∃ result after, (attempt story e).run scene = (.ok result, after)) ↔
      ¬ Stuck story scene.state e := by
  have hclosed : ∀ step : Run Amount EffectReport,
      (∃ result after, ((·, []) <$> step : Run Amount (EffectReport × List (Effect Amount))).run scene =
        (.ok result, after)) ↔ ∃ report after, step.run scene = (.ok report, after) := by
    intro step
    rw [map_eq_pure_bind]
    exact Step.run_bind_ok_iff (fun report s => ⟨_, s, rfl⟩) scene
  cases e with
  | lootTable table =>
    unfold Stuck
    rw [not_not]
    by_cases hempty : table.isEmpty = true
    · obtain rfl := List.isEmpty_iff.1 hempty
      refine iff_of_true ((hclosed _).2 ⟨_, _, rfl⟩) ⟨.int 0, rfl, ?_⟩
      exact Nat.not_le.2 Decimal.wholeBound_pos
    · rw [attempt, if_neg hempty, ← drawEntry_ok_iff table hdraws]
      refine Step.run_bind_ok_iff (fun drawn s => ?_) scene
      cases drawn <;> exact ⟨_, _, rfl⟩
  | _ => exact (hclosed _).trans (applySimple_ok_iff rfl scene)

theorem drawEntry_draws {table : List (LootEntry Amount)} {scene after : Scene Amount}
    {result : Except Fault (Option Nat)} (h : (drawEntry table).run scene = (result, after)) :
    after.draws.value = scene.draws.value := by
  rw [run_drawEntry] at h
  cases h
  exact Draw.pick_value _ _

/-- An attempt draws from the same values as the run before it. -/
theorem Tried.draws {e : Effect Amount} {scene after : Scene Amount} {report : EffectReport}
    {opened : List (Effect Amount)} (h : Tried story scene e report opened after) :
    after.draws.value = scene.draws.value := by
  cases h with
  | simple _ hrun =>
    obtain ⟨hdraws, -⟩ := applySimple_keeps story e scene.draws scene rfl
    rw [hrun] at hdraws
    exact congrArg Feed.value hdraws
  | empty => rfl
  | nothing hdraw =>
    have hvalue := drawEntry_draws hdraw
    exact hvalue
  | drawn hdraw => exact drawEntry_draws hdraw

/-! ## Runs -/

theorem Attempts.floating {scene after : Scene Amount} {pending left : List (Effect Amount)}
    {attempts : List (Attempt Amount)} (h : Attempts story scene pending attempts after left)
    (hdraws : scene.draws.Floating) : after.draws.Floating := by
  induction h with
  | stay => exact hdraws
  | next hrun _ ih =>
    refine ih fun n => ?_
    rw [(attempt_tried hrun).draws]
    exact hdraws n

/-- A list of effects comes to its end, with each of its effects attempted in order, just if no effect is
stuck when its turn comes.  Effects that cannot be done for another reason do not stop it. -/
theorem applyAll_returns (story : Story Amount) (effects : List (Effect Amount)) {scene : Scene Amount}
    (hdraws : scene.draws.Floating) :
    (∃ report after attempts, (applyAll story effects).run scene = (.ok report, after) ∧
      Attempts story scene effects attempts after [] ∧ effects.Sublist (attempts.map Attempt.effect)) ↔
    ∀ attempts middle e left, Attempts story scene effects attempts middle (e :: left) →
      ¬ Stuck story middle.state e := by
  constructor
  · rintro ⟨report, after, attempts, -, hattempts, -⟩ more middle e left hmore
    obtain ⟨others, -, hothers⟩ := hattempts.split hmore
    cases hothers with
    | next hrun _ => exact (attempt_ok_iff e (hmore.floating hdraws)).1 ⟨_, _, hrun⟩
  · intro hfree
    have hends := applyAll_ends story effects scene
    generalize (applyAll story effects).run scene = result at hends ⊢
    cases hends with
    | finished hattempts _ => exact ⟨_, _, _, rfl, hattempts, hattempts.sublist⟩
    | stopped hattempts hfault =>
      obtain ⟨result, after, hrun⟩ :=
        (attempt_ok_iff _ (hattempts.floating hdraws)).2 (hfree _ _ _ _ hattempts)
      rw [hfault] at hrun
      cases hrun

/-! ## A strongbox -/

/-- A strongbox with something in it that is not in the catalogs, and an entry of some weight. -/
def strongbox (weight : Int) : List (Effect Amount) :=
  [.addItem "ghost" 1, .lootTable [⟨.int weight, [.addCurrency "gold" (.float 0.5)]⟩],
    .setFlag "opened" true]

/-- The start of the riddle, with draws in the middle. -/
def riddleScene : Scene Amount :=
  { state := State.initial .riddle none, draws := .always (.float 0.5), clock := .always 0 }

theorem strongbox_returns :
    riddleScene.draws.Floating ∧
    (∃ report after attempts, (applyAll Story.riddle (strongbox 1)).run riddleScene = (.ok report, after) ∧
      Attempts Story.riddle riddleScene (strongbox 1) attempts after [] ∧
      (strongbox 1).Sublist (attempts.map Attempt.effect)) ∧
    ∀ attempts middle e left, Attempts Story.riddle riddleScene (strongbox 1) attempts middle (e :: left) →
      ¬ Stuck Story.riddle middle.state e := by
  have hdraws : riddleScene.draws.Floating := fun n => ⟨0.5, rfl⟩
  have hok : ((applyAll Story.riddle (strongbox 1)).run riddleScene).1.toOption.isSome = true := by
    decide +kernel
  have hends := applyAll_ends Story.riddle (strongbox 1) riddleScene
  generalize hrun : (applyAll Story.riddle (strongbox 1)).run riddleScene = result at hends hok
  cases hends with
  | stopped _ _ => cases hok
  | finished hattempts _ =>
    have hfree := (applyAll_returns Story.riddle (strongbox 1) hdraws).1
      ⟨_, _, _, hrun, hattempts, hattempts.sublist⟩
    exact ⟨hdraws, ⟨_, _, _, rfl, hattempts, hattempts.sublist⟩, hfree⟩

/-- With a weight that no floating number can hold the strongbox is not opened: drawing meets a fault, and the
flag behind it is not set.  Gold in halves does not take a huge whole number either. -/
theorem strongbox_stops :
    let opened := (applyAll Story.riddle (strongbox (10 ^ 400))).run riddleScene
    let paid := (applyAll Story.riddle
      [.addCurrency "gold" (.float 0.5), .addCurrency "gold" (.int (10 ^ 400)), .setFlag "paid" true]).run
        riddleScene
    (opened.1 = .error .amountTooLarge ∧ opened.2.state.flags.get? "opened" = none) ∧
      paid.1 = .error .amountTooLarge ∧ paid.2.state.flags.get? "paid" = none := by
  decide +kernel

end Effect

end StoryRules
