import StoryRules.Proofs.Effect.Trace

/-!
# Attempting effects one at a time

Applying effects comes down to a list of pending effects, the first of which is attempted over and over.
What is drawn from a loot table is pending next, in front of the rest.  An effect that cannot be done has a
report like any other, and the run goes on behind it; only a fault ends a run while effects are pending.

    Ends story scene effects {} ((applyAll story effects).run scene)      (applyAll_ends)
-/

namespace StoryRules.Effect

variable {α : Type} [Number α]

/-- Attempts one effect; what it opens is to be attempted next. -/
def attempt (story : Story α) : Effect α → Run α (EffectReport × List (Effect α))
  | .lootTable table =>
    if table.isEmpty then (·, []) <$> fail .lootEmpty
    else do
      match ← drawEntry table with
      | none => (·, []) <$> fail .lootWeightless
      | some i => return (.ok "Loot table rolled:", (table[i]?.map Weighted.item).getD [])
  | e => (·, []) <$> applySimple story e

/-- An effect that was attempted, with what was said of it, between two states. -/
structure Attempt (α : Type) where
  effect : Effect α
  report : EffectReport
  before : State α
  after : State α

/-- Attempts that lead from a scene to another, and from pending effects to those that are left. -/
inductive Attempts (story : Story α) :
    Scene α → List (Effect α) → List (Attempt α) → Scene α → List (Effect α) → Prop
  | stay {scene : Scene α} {pending : List (Effect α)} : Attempts story scene pending [] scene pending
  | next {scene middle after : Scene α} {e : Effect α} {report : EffectReport}
    {rest opened left : List (Effect α)} {attempts : List (Attempt α)} :
    (attempt story e).run scene = (.ok (report, opened), middle) →
    Attempts story middle (opened ++ rest) attempts after left →
    Attempts story scene (e :: rest) (⟨e, report, scene.state, middle.state⟩ :: attempts) after left

variable {story : Story α}

/-! ## The recursion as attempts -/

omit [Number α] in
theorem absorb_empty (a : EffectReport) : a.absorb {} = a := by
  obtain ⟨success, logs, goto⟩ := a
  cases goto <;> simp [EffectReport.absorb]

/-- An effect is applied by attempting it and then applying what it opened. -/
theorem applyOne_eq (e : Effect α) : applyOne story e = (do
    let (report, opened) ← attempt story e
    let nested ← applyAll story opened
    return report.absorb nested) := by
  have hclosed : ∀ step : Run α EffectReport, step = (do
      let (report, opened) ← ((·, []) <$> step : Run α (EffectReport × List (Effect α)))
      let nested ← applyAll story opened
      return report.absorb nested) := by
    intro step
    simp only [bind_map_left, applyAll, applyFrom, pure_bind, absorb_empty, bind_pure]
  cases e with
  | lootTable table =>
    rw [applyOne, attempt]
    split
    · exact hclosed _
    · rw [bind_assoc]
      refine bind_congr fun drawn => ?_
      cases drawn with
      | none => exact hclosed _
      | some i =>
        dsimp only
        rw [pure_bind, applyEntry_eq]
  | _ => exact hclosed _

/-! ## Attempts in a row -/

namespace Attempts

variable {scene middle after : Scene α} {pending left rest : List (Effect α)}
  {attempts more : List (Attempt α)}

theorem trans (h : Attempts story scene pending attempts middle left)
    (h' : Attempts story middle left more after rest) :
    Attempts story scene pending (attempts ++ more) after rest := by
  induction h with
  | stay => exact h'
  | next hrun _ ih => exact .next hrun (ih h')

/-- What is pending behind the effects that are attempted stays pending. -/
theorem behind (h : Attempts story scene pending attempts after left) (rest : List (Effect α)) :
    Attempts story scene (pending ++ rest) attempts after (left ++ rest) := by
  induction h with
  | stay => exact .stay
  | next hrun _ ih =>
    rw [List.append_assoc] at ih
    exact .next hrun ih

/-- Two runs from one scene go the same way as long as both go on. -/
theorem split (h : Attempts story scene pending attempts after []) :
    ∀ {more : List (Attempt α)} {middle : Scene α} {left : List (Effect α)},
      Attempts story scene pending more middle left →
        ∃ others, attempts = more ++ others ∧ Attempts story middle left others after [] := by
  intro more middle left h'
  induction h' generalizing attempts with
  | stay => exact ⟨attempts, rfl, h⟩
  | next hrun _ ih =>
    cases h with
    | next hrun' h =>
      rw [hrun] at hrun'
      cases hrun'
      obtain ⟨others, rfl, hothers⟩ := ih h
      exact ⟨others, rfl, hothers⟩

/-- The attempts of a run that leaves nothing are determined by where it starts. -/
theorem unique (h : Attempts story scene pending attempts after []) {last : Scene α}
    (h' : Attempts story scene pending more last []) : more = attempts ∧ last = after := by
  obtain ⟨others, rfl, hothers⟩ := h.split h'
  cases hothers
  exact ⟨(List.append_nil _).symm, rfl⟩

/-- Every effect that is pending at first is attempted, in order. -/
theorem sublist (h : Attempts story scene pending attempts after []) :
    pending.Sublist (attempts.map Attempt.effect) := by
  generalize hleft : ([] : List (Effect α)) = left at h
  induction h with
  | stay =>
    subst hleft
    exact .slnil
  | next _ _ ih => exact ((List.sublist_append_right _ _).trans (ih hleft)).cons_cons _

/-- What every attempt brings with it holds of all attempts of a run. -/
theorem forall_mem {P : Attempt α → Prop}
    (hP : ∀ {scene after : Scene α} {e : Effect α} {report : EffectReport} {opened : List (Effect α)},
      (attempt story e).run scene = (.ok (report, opened), after) →
        P ⟨e, report, scene.state, after.state⟩)
    (h : Attempts story scene pending attempts after left) : ∀ a ∈ attempts, P a := by
  induction h with
  | stay => exact fun a ha => absurd ha List.not_mem_nil
  | next hrun _ ih => exact List.forall_mem_cons.2 ⟨hP hrun, ih⟩

end Attempts

/-! ## One attempt -/

/-- An effect that cannot be done: the story lacks what it names, or there is nothing to draw. -/
def Fails (story : Story α) : Effect α → Prop
  | addItem id _ | removeItem id _ => story.item? id = none
  | addStat id _ => story.stat? id = none
  | lootTable table => ∀ entry ∈ table, Number.isPositive entry.weight = false
  | _ => False

/-- What an attempt that came to an end says and does, but for loot tables. -/
structure Reports (story : Story α) (e : Effect α) (scene : Scene α) (report : EffectReport)
    (after : Scene α) : Prop where
  line : report.logs.length = 1
  success : report.success = false ↔ e.Fails story
  kept : e.Fails story → after.state = scene.state

section

variable {scene after : Scene α} {report : EffectReport}

theorem changeItem_ok {id : String} {asked delta : Int} {words : Item → String → String → String}
    (h : (changeItem story id asked delta words).run scene = (.ok report, after)) :
    report.logs.length = 1 ∧ (report.success = false ↔ story.item? id = none) ∧
      (story.item? id = none → after.state = scene.state) := by
  unfold changeItem at h
  split at h
  · next hnone =>
    cases h
    exact ⟨rfl, iff_of_true rfl hnone, fun _ => rfl⟩
  · next item hitem =>
    obtain ⟨seen, _, -, h⟩ := Step.run_bind_eq_ok.1 h
    obtain ⟨text, -, rfl, -⟩ := alter_eq_ok.1 h
    exact ⟨rfl, iff_of_false nofun (by simp [hitem]), fun hnone => by simp [hitem] at hnone⟩

theorem changeStat_ok {id : String} {value : α}
    (h : (changeStat story id value).run scene = (.ok report, after)) :
    report.logs.length = 1 ∧ (report.success = false ↔ story.stat? id = none) ∧
      (story.stat? id = none → after.state = scene.state) := by
  unfold changeStat at h
  split at h
  · next hnone =>
    cases h
    exact ⟨rfl, iff_of_true rfl hnone, fun _ => rfl⟩
  · next stat hstat =>
    obtain ⟨seen, _, -, h⟩ := Step.run_bind_eq_ok.1 h
    obtain ⟨total, _, -, h⟩ := Step.run_bind_eq_ok.1 h
    obtain ⟨text, -, rfl, -⟩ := alter_eq_ok.1 h
    exact ⟨rfl, iff_of_false nofun (by simp [hstat]), fun hnone => by simp [hstat] at hnone⟩

theorem applySimple_reports {e : Effect α} (hsimple : e.isLoot = false)
    (h : (applySimple story e).run scene = (.ok report, after)) :
    Reports story e scene report after := by
  cases e with
  | addItem id quantity =>
    unfold applySimple at h
    obtain ⟨hline, hsuccess, hkept⟩ := changeItem_ok h
    exact ⟨hline, hsuccess, hkept⟩
  | removeItem id quantity =>
    unfold applySimple at h
    obtain ⟨hline, hsuccess, hkept⟩ := changeItem_ok h
    exact ⟨hline, hsuccess, hkept⟩
  | addStat id value =>
    obtain ⟨hline, hsuccess, hkept⟩ := changeStat_ok h
    exact ⟨hline, hsuccess, hkept⟩
  | lootTable table => cases hsimple
  | addCurrency currency value =>
    obtain ⟨seen, _, -, h⟩ := Step.run_bind_eq_ok.1 h
    obtain ⟨total, _, -, h⟩ := Step.run_bind_eq_ok.1 h
    obtain ⟨text, -, rfl, -⟩ := alter_eq_ok.1 h
    exact ⟨rfl, iff_of_false nofun id, False.elim⟩
  | setTimer timer duration =>
    rw [setTimer_run] at h
    obtain ⟨text, -, rfl⟩ := map_eq_ok.1 (congrArg Prod.fst h)
    exact ⟨rfl, iff_of_false nofun id, False.elim⟩
  | setFlag _ _ | unlockChoice _ _ | lockChoice _ _ =>
    unfold applySimple at h
    obtain ⟨text, -, rfl, -⟩ := alter_eq_ok.1 h
    exact ⟨rfl, iff_of_false nofun id, False.elim⟩
  | log _ | goto _ =>
    cases h
    exact ⟨rfl, iff_of_false nofun id, False.elim⟩

end

/-- How an attempt comes to an end. -/
inductive Tried (story : Story α) (scene : Scene α) :
    Effect α → EffectReport → List (Effect α) → Scene α → Prop
  | simple {e : Effect α} {report : EffectReport} {after : Scene α} : e.isLoot = false →
    (applySimple story e).run scene = (.ok report, after) → Tried story scene e report [] after
  | empty : Tried story scene (lootTable []) (.failure LogLine.lootEmpty.text) []
    { scene with log := scene.log ++ [.lootEmpty] }
  | nothing {table : List (LootEntry α)} {middle : Scene α} :
    (drawEntry table).run scene = (.ok none, middle) →
    Tried story scene (lootTable table) (.failure LogLine.lootWeightless.text) []
      { middle with log := middle.log ++ [.lootWeightless] }
  | drawn {table : List (LootEntry α)} {i : Nat} {after : Scene α} :
    (drawEntry table).run scene = (.ok (some i), after) →
    Tried story scene (lootTable table) (.ok "Loot table rolled:")
      ((table[i]?.map Weighted.item).getD []) after

theorem attempt_tried {e : Effect α} {scene after : Scene α} {report : EffectReport}
    {opened : List (Effect α)} (h : (attempt story e).run scene = (.ok (report, opened), after)) :
    Tried story scene e report opened after := by
  cases e with
  | lootTable table =>
    by_cases hempty : table.isEmpty = true
    · rw [attempt, if_pos hempty] at h
      obtain rfl := List.isEmpty_iff.1 hempty
      cases h
      exact .empty
    · rw [attempt, if_neg hempty] at h
      obtain ⟨drawn, middle, hdraw, h⟩ := Step.run_bind_eq_ok.1 h
      cases drawn with
      | none =>
        cases h
        exact .nothing hdraw
      | some i =>
        cases h
        exact .drawn hdraw
  | _ =>
    obtain ⟨report, hrun, ⟨⟩⟩ := Step.run_map_eq_ok.1 h
    exact .simple rfl hrun

namespace Tried

variable {e : Effect α} {scene after : Scene α} {report : EffectReport} {opened : List (Effect α)}

/-- An attempt says one thing, and asks for a jump just if the effect does. -/
theorem line (h : Tried story scene e report opened after) :
    report.logs.length = 1 ∧ report.goto = e.target? := by
  cases h with
  | simple hsimple hrun =>
    obtain ⟨-, hgoto⟩ := applySimple_keeps story e scene.draws scene rfl
    rw [hrun] at hgoto
    exact ⟨(applySimple_reports hsimple hrun).line, hgoto report rfl⟩
  | empty => exact ⟨rfl, rfl⟩
  | nothing => exact ⟨rfl, rfl⟩
  | drawn => exact ⟨rfl, rfl⟩

/-- What an attempt opens was in an entry of its loot table. -/
theorem mem_opened {x : Effect α} (h : Tried story scene e report opened after) (hx : x ∈ opened) :
    ∃ table, e = lootTable table ∧ ∃ entry ∈ table, x ∈ entry.item := by
  cases h with
  | simple => exact absurd hx List.not_mem_nil
  | empty => exact absurd hx List.not_mem_nil
  | nothing => exact absurd hx List.not_mem_nil
  | @drawn table i _ _ =>
    cases hentry : table[i]? with
    | none =>
      rw [hentry] at hx
      exact absurd hx List.not_mem_nil
    | some entry =>
      rw [hentry] at hx
      exact ⟨table, rfl, entry, List.mem_of_getElem? hentry, hx⟩

end Tried

/-! ## What a report accounts for -/

section

variable {β : Type}

/-- How many of the attempted effects ask for a jump. -/
def jumps (attempts : List (Attempt β)) : Nat := attempts.countP fun a => a.effect.target?.isSome

/-- The report of attempts behind an earlier report: a line for each attempt, and one more for each jump that
comes too late. -/
structure Accounts (attempts : List (Attempt β)) (earlier report : EffectReport) : Prop where
  lines : report.logs.length = earlier.logs.length + attempts.length +
    (jumps attempts - if earlier.goto.isSome then 0 else 1)
  success : report.success = (earlier.success && attempts.all (·.report.success))
  goto : report.goto = earlier.goto.or (attempts.findSome? (·.effect.target?))

theorem absorb_lines (a b : EffectReport) : (a.absorb b).logs.length =
    a.logs.length + b.logs.length + if a.goto.isSome && b.goto.isSome then 1 else 0 := by
  unfold EffectReport.absorb
  rcases a with ⟨_, _, _ | early⟩ <;> rcases b with ⟨_, _, _ | late⟩ <;> simp [Nat.add_assoc]

theorem absorb_success (a b : EffectReport) : (a.absorb b).success = (a.success && b.success) := by
  unfold EffectReport.absorb
  rcases a with ⟨_, _, _ | early⟩ <;> rcases b with ⟨_, _, _ | late⟩ <;> rfl

theorem jumps_eq_zero (attempts : List (Attempt β)) :
    jumps attempts = 0 ↔ attempts.findSome? (·.effect.target?) = none := by
  simp [jumps, List.countP_eq_zero, List.findSome?_eq_none_iff]

namespace Accounts

variable {earlier next report : EffectReport} {attempts more : List (Attempt β)}

theorem nothing (report : EffectReport) : Accounts (β := β) [] report report where
  lines := by simp [jumps]
  success := by simp
  goto := by simp

/-- One attempt is accounted for by its own report. -/
theorem one {a : Attempt β} (hline : a.report.logs.length = 1) (hgoto : a.report.goto = a.effect.target?) :
    Accounts [a] {} a.report where
  lines := by
    rw [hline]
    unfold jumps
    rw [List.countP_singleton]
    cases a.effect.target? <;> rfl
  success := by simp
  goto := by
    rw [hgoto, List.findSome?_cons]
    cases a.effect.target? <;> rfl

theorem trans (h : Accounts attempts earlier next) (h' : Accounts more next report) :
    Accounts (attempts ++ more) earlier report := by
  refine ⟨?lines, ?success, ?goto⟩
  case lines =>
    have hgoto := h.goto
    have hnone := jumps_eq_zero attempts
    have happend : jumps (attempts ++ more) = jumps attempts + jumps more := List.countP_append
    rw [List.length_append, happend, h'.lines, h.lines]
    cases hearly : earlier.goto <;> cases hfirst : attempts.findSome? (·.effect.target?) <;>
      simp [hearly, hfirst] at hgoto hnone <;> simp [hgoto] <;> omega
  case success => rw [h'.success, h.success, List.all_append, Bool.and_assoc]
  case goto => rw [h'.goto, h.goto, List.findSome?_append, Option.or_assoc]

/-- A report is told behind another one by taking it in. -/
theorem behind (h : Accounts attempts {} next) (earlier : EffectReport) :
    Accounts attempts earlier (earlier.absorb next) := by
  have hgoto : next.goto = attempts.findSome? (·.effect.target?) := h.goto
  refine ⟨?lines, ?success, ?goto⟩
  case lines =>
    have hlines := h.lines
    have hnone := jumps_eq_zero attempts
    rw [← hgoto] at hnone
    rw [absorb_lines, hlines]
    cases hearly : earlier.goto <;> cases hnext : next.goto <;> simp [hnext] at hnone ⊢ <;> omega
  case success => rw [absorb_success, h.success, Bool.true_and]
  case goto => rw [goto_absorb, hgoto]

end Accounts

end

/-! ## Runs -/

/-- How applying effects behind an earlier report ends: all that is pending was attempted, and the report
accounts for it, or a fault met the attempt of an effect. -/
inductive Ends (story : Story α) (scene : Scene α) (effects : List (Effect α)) (earlier : EffectReport) :
    Except Fault EffectReport × Scene α → Prop
  | finished {attempts : List (Attempt α)} {report : EffectReport} {after : Scene α} :
    Attempts story scene effects attempts after [] → Accounts attempts earlier report →
    Ends story scene effects earlier (.ok report, after)
  | stopped {attempts : List (Attempt α)} {e : Effect α} {left : List (Effect α)} {fault : Fault}
    {middle after : Scene α} :
    Attempts story scene effects attempts middle (e :: left) →
    (attempt story e).run middle = (.error fault, after) →
    Ends story scene effects earlier (.error fault, after)

theorem applyFrom_ends {effects : List (Effect α)}
    (h : ∀ e ∈ effects, ∀ scene, Ends story scene [e] {} ((applyOne story e).run scene)) :
    ∀ earlier scene, Ends story scene effects earlier ((applyFrom story earlier effects).run scene) := by
  induction effects with
  | nil =>
    intro earlier scene
    rw [applyFrom]
    exact .finished .stay (.nothing earlier)
  | cons e rest ih =>
    intro earlier scene
    have hfirst := h e List.mem_cons_self scene
    rw [applyFrom, Step.run_bind]
    rcases hone : (applyOne story e).run scene with ⟨fault | next, middle⟩
    · rw [hone] at hfirst
      cases hfirst with
      | stopped hattempts hfault => exact .stopped (hattempts.behind rest) hfault
    · rw [hone] at hfirst
      cases hfirst with
      | finished hattempts haccounts =>
        have hlater := ih (fun x hx => h x (List.mem_cons_of_mem _ hx)) (earlier.absorb next) middle
        dsimp only
        generalize (applyFrom story (earlier.absorb next) rest).run middle = result at hlater ⊢
        cases hlater with
        | finished hmore haccounts' =>
          exact .finished ((hattempts.behind rest).trans hmore) ((haccounts.behind earlier).trans haccounts')
        | stopped hmore hfault => exact .stopped ((hattempts.behind rest).trans hmore) hfault

theorem applyOne_ends (e : Effect α) :
    ∀ scene, Ends story scene [e] {} ((applyOne story e).run scene) := by
  -- whatever is opened is nested in the effect, so it ends by induction
  have hstep : ∀ e : Effect α, (∀ table, e = lootTable table → ∀ entry ∈ table, ∀ x ∈ entry.item,
      ∀ scene, Ends story scene [x] {} ((applyOne story x).run scene)) →
      ∀ scene, Ends story scene [e] {} ((applyOne story e).run scene) := by
    intro e h scene
    rw [applyOne_eq, Step.run_bind]
    rcases hattempt : (attempt story e).run scene with ⟨fault | ⟨report, opened⟩, middle⟩
    · exact .stopped .stay hattempt
    · have htried := attempt_tried hattempt
      obtain ⟨hline, hgoto⟩ := htried.line
      have hopened : ∀ x ∈ opened, ∀ scene, Ends story scene [x] {} ((applyOne story x).run scene) := by
        intro x hx
        obtain ⟨table, he, entry, hentry, hx⟩ := htried.mem_opened hx
        exact h table he entry hentry x hx
      have hnested := applyFrom_ends hopened {} middle
      dsimp only
      rw [Step.run_bind, applyAll]
      generalize (applyFrom story {} opened).run middle = result at hnested ⊢
      rw [← List.append_nil opened] at hnested
      cases hnested with
      | finished hmore haccounts =>
        exact .finished (.next hattempt hmore)
          ((Accounts.one (a := ⟨e, report, _, _⟩) hline hgoto).trans (haccounts.behind report))
      | stopped hmore hfault => exact .stopped (.next hattempt hmore) hfault
  induction e using Effect.nested with
  | simple e hsimple => exact hstep e fun table he => absurd he (hsimple table)
  | loot table ih =>
    refine hstep _ ?_
    rintro _ ⟨⟩
    exact ih

/-- Applying effects attempts them one at a time, and those that it opens, until nothing is pending or a fault
is met. -/
theorem applyAll_ends (story : Story α) (effects : List (Effect α)) (scene : Scene α) :
    Ends story scene effects {} ((applyAll story effects).run scene) :=
  applyFrom_ends (fun e _ => applyOne_ends e) {} scene

end StoryRules.Effect
