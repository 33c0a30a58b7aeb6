import StoryRules.Proofs.Draw.Proportion
import StoryRules.Proofs.Effect.Journal
import StoryRules.Proofs.Effect.Succeeds

/-!
# What can be drawn

Every weight above zero is drawn by some draw between zero and one.  So on exact amounts there are draws that
lead a run to any place of a list that lies only under such weights: one for each table on the way, and any
others for the tables beside it.

    Stands (0 < ·.weight) effects place e → Executable story effects place e          (Stands.executable)
-/

namespace StoryRules

namespace Draw

/-- A draw with which a position is selected draws it. -/
theorem Selects.pick_eq {α : Type} [Number α] {weights : List α} {feed : Feed α} {i : Nat}
    (h : Selects weights feed.next.1 i) : pick weights feed = (.ok (some i), feed.skip 1) := by
  unfold Selects pick at h
  unfold pick
  dsimp only at h ⊢
  cases hsum : Number.sum (weights.map positivePart) with
  | error fault =>
    rw [hsum] at h
    cases h
  | ok total =>
    rw [hsum] at h
    dsimp only at h ⊢
    split
    · next hzero =>
      rw [if_pos hzero] at h
      cases h
    · next hzero =>
      rw [if_neg hzero] at h
      exact Prod.ext h rfl

/-- A weight above zero is selected by a draw between zero and one. -/
theorem exists_selects {weights : List Rat} {i : Nat} {w : Rat} (hw : weights[i]? = some w) (hpos : 0 < w) :
    ∃ r, (0 ≤ r ∧ r < 1) ∧ Selects weights r i := by
  have htotal := positiveSum_pos_iff.2 ⟨w, List.mem_of_getElem? hw, hpos⟩
  have hstep := positiveSum_take_succ hw
  rw [positivePart_of_pos hpos] at hstep
  have hfrom := positiveSum_nonneg (weights.take i)
  have hto := positiveSum_take_le weights (i + 1)
  obtain ⟨bar, hlow, hhigh⟩ : ∃ bar, positiveSum (weights.take i) < bar ∧
      bar < positiveSum (weights.take (i + 1)) := exists_between (by linarith)
  have hroll : bar / positiveSum weights * positiveSum weights = bar := div_mul_cancel₀ _ htotal.ne'
  have hone : bar / positiveSum weights < 1 := (div_lt_one htotal).2 (by linarith)
  refine ⟨bar / positiveSum weights, ⟨div_nonneg (by linarith) htotal.le, hone⟩, ?_⟩
  rw [selects_iff_firstReaching htotal hone, hroll, FirstReaching.iff_between (by linarith) hw hpos]
  exact ⟨hlow, hhigh.le⟩

end Draw

namespace Effect

open Located

section

variable {α : Type} [Number α] {story : Story α}

/-! ## Journals with given draws -/

/-- With these draws ahead a run comes to an end and uses them up, and this is its journal, whatever else it
finds. -/
def Plays (draws : List α) (step : Run α (EffectReport × List (Located (Effect α))))
    (executed : List (Located (Effect α))) : Prop :=
  ∀ scene : Scene α, draws = scene.draws.taken draws.length → ∃ report after,
    step.run scene = (.ok (report, executed), after) ∧ after.draws = scene.draws.skip draws.length

variable {draws later : List α} {first executed : List (Located (Effect α))}

omit [Number α] in
theorem taken_append {feed : Feed α} (h : draws ++ later = feed.taken (draws ++ later).length) :
    draws = feed.taken draws.length ∧ later = (feed.skip draws.length).taken later.length := by
  rw [List.length_append, Feed.taken_add] at h
  exact List.append_inj h (by simp [Feed.taken])

theorem plays_nil (k : Nat) (report : EffectReport) : Plays [] (journalFrom story k report []) [] := by
  intro scene _
  rw [journalFrom]
  exact ⟨report, scene, rfl, rfl⟩

theorem plays_cons {e : Effect α} {rest : List (Effect α)} {k : Nat} (hone : Plays draws (journalOne story e) first)
    (hrest : ∀ report, Plays later (journalFrom story (k + 1) report rest) executed) (report : EffectReport) :
    Plays (draws ++ later) (journalFrom story k report (e :: rest)) (within k first ++ executed) := by
  intro scene htaken
  obtain ⟨hdraws, hlater⟩ := taken_append htaken
  obtain ⟨next, middle, hrun, hmiddle⟩ := hone scene hdraws
  rw [← hmiddle] at hlater
  obtain ⟨last, after, hrun', hafter⟩ := hrest (report.absorb next) middle hlater
  refine ⟨last, after, ?_, ?_⟩
  · rw [journalFrom]
    exact Step.run_bind_eq_ok.2 ⟨_, _, hrun, Step.run_bind_eq_ok.2 ⟨_, _, hrun', rfl⟩⟩
  · rw [hafter, hmiddle, Feed.skip_skip, List.length_append]

theorem journalEntry_of_getElem? {table : List (LootEntry α)} {entry : LootEntry α} : ∀ {j : Nat},
    table[j]? = some entry → ∀ k, journalEntry story k table j = (do
      let (report, nested) ← journal story entry.item
      return (report, within (k + j) nested)) := by
  induction table with
  | nil => exact fun h => nomatch h
  | cons first rest ih =>
    intro j h k
    cases j with
    | zero =>
      obtain rfl := Option.some.inj h
      rw [journalEntry]
      rfl
    | succ j =>
      rw [journalEntry, ← Nat.add_assoc, Nat.add_right_comm]
      exact ih h (k + 1)

theorem plays_drawn {draw : α} {table : List (LootEntry α)} {entry : LootEntry α} {j : Nat}
    (hentry : table[j]? = some entry) (hselects : Draw.Selects (table.map Weighted.weight) draw j)
    (hnested : Plays draws (journal story entry.item) executed) :
    Plays (draw :: draws) (journalOne story (lootTable table))
      (([], lootTable table) :: within j executed) := by
  intro scene htaken
  obtain ⟨hdraw, hdraws⟩ : [draw] = _ ∧ draws = _ := taken_append htaken
  obtain rfl : draw = scene.draws.next.1 := List.singleton_inj.1 hdraw
  obtain ⟨drawn, after, hrun, hafter⟩ := hnested { scene with draws := scene.draws.skip 1 } hdraws
  have hsome : ¬ table.isEmpty = true := by
    intro hempty
    rw [List.isEmpty_iff.1 hempty] at hentry
    cases hentry
  have hpick : (drawEntry table).run scene = (.ok (some j), { scene with draws := scene.draws.skip 1 }) := by
    rw [run_drawEntry, hselects.pick_eq]
  refine ⟨(EffectReport.ok "Loot table rolled:").absorb drawn, after, ?_, ?_⟩
  · rw [journalOne, if_neg hsome]
    refine Step.run_bind_eq_ok.2 ⟨_, _, hpick, ?_⟩
    dsimp only
    rw [journalEntry_of_getElem? hentry, Nat.zero_add]
    exact Step.run_bind_eq_ok.2 ⟨_, _, Step.run_bind_eq_ok.2 ⟨_, _, hrun, rfl⟩, rfl⟩
  · rw [hafter, Feed.skip_skip, List.length_cons, Nat.add_comm]

theorem plays_undrawn {table : List (LootEntry α)}
    (h : ∀ draws, Draw.pick (table.map Weighted.weight) draws = (.ok none, draws)) :
    Plays [] (journalOne story (lootTable table)) [([], lootTable table)] := by
  intro scene _
  have hpick : (drawEntry table).run scene = (.ok none, scene) := by rw [run_drawEntry, h]
  rw [journalOne]
  split
  · exact ⟨_, _, rfl, rfl⟩
  · exact ⟨_, _, Step.run_bind_eq_ok.2 ⟨_, _, hpick, rfl⟩, rfl⟩

end

/-! ## Exact amounts -/

variable {story : Story Rat}

/-- Draws between zero and one. -/
def AreDraws (draws : List Rat) : Prop := ∀ r ∈ draws, 0 ≤ r ∧ r < 1

theorem plays_simple {e : Effect Rat} (h : ∀ table, e ≠ lootTable table) :
    Plays [] (journalOne story e) [([], e)] := by
  intro scene _
  have hadds : e.AmountsIn Number.Addable Draw.Drawable := by
    cases e with
    | addCurrency currency value => exact Rational.exact.addable value
    | addStat stat value => exact Rational.exact.addable value
    | lootTable table => exact absurd rfl (h table)
    | _ => trivial
  obtain ⟨report, after, hrun⟩ : ∃ report after, (applySimple story e).run scene = (.ok report, after) :=
    (applySimple_succeeds hadds fun _ => e.legible).returns (fun _ => ⟨trivial, State.legible story _⟩) scene
  obtain ⟨hdraws, -⟩ := applySimple_keeps story e scene.draws scene rfl
  rw [hrun] at hdraws
  refine ⟨report, after, ?_, hdraws⟩
  rw [journalOne_of_simple h]
  exact Step.run_map_eq_ok.2 ⟨report, hrun, rfl⟩

/-- With some draws between zero and one a step comes to an end, and has executed `x` by then. -/
def Comes (step : Run Rat (EffectReport × List (Located (Effect Rat)))) (x : Located (Effect Rat)) : Prop :=
  ∃ draws executed, AreDraws draws ∧ x ∈ executed ∧ Plays draws step executed

theorem AreDraws.nil : AreDraws [] := List.forall_mem_nil _

theorem AreDraws.append {draws later : List Rat} (h : AreDraws draws) (h' : AreDraws later) :
    AreDraws (draws ++ later) :=
  List.forall_mem_append.2 ⟨h, h'⟩

section

variable {effects : List (Effect Rat)} (hall : ∀ e ∈ effects, Comes (journalOne story e) ([], e))

include hall

theorem journalFrom_ends : ∀ k, ∃ draws executed, AreDraws draws ∧
    ∀ report, Plays draws (journalFrom story k report effects) executed := by
  induction effects with
  | nil => exact fun k => ⟨[], [], .nil, plays_nil k⟩
  | cons e rest ih =>
    intro k
    obtain ⟨draws, first, hdraws, -, hone⟩ := hall e List.mem_cons_self
    obtain ⟨later, executed, hlater, hrest⟩ := ih (fun x hx => hall x (List.mem_cons_of_mem _ hx)) (k + 1)
    exact ⟨_, _, hdraws.append hlater, plays_cons hone hrest⟩

/-- What an effect of a list comes to, the list comes to. -/
theorem journalFrom_comes {i : Nat} {e x : Effect Rat} {place : List Nat} (hi : effects[i]? = some e)
    (hcomes : Comes (journalOne story e) (place, x)) : ∀ k, ∃ draws executed, AreDraws draws ∧
      ((k + i) :: place, x) ∈ executed ∧ ∀ report, Plays draws (journalFrom story k report effects) executed := by
  induction effects generalizing i with
  | nil => cases hi
  | cons first rest ih =>
    intro k
    have hrest := fun x hx => hall x (List.mem_cons_of_mem first hx)
    cases i with
    | zero =>
      -- What stands behind the effect only has to come to an end.
      obtain rfl := Option.some.inj hi
      obtain ⟨draws, executed, hdraws, hmem, hone⟩ := hcomes
      obtain ⟨later, follow, hlater, hplays⟩ := journalFrom_ends hrest (k + 1)
      exact ⟨_, _, hdraws.append hlater, List.mem_append_left _ (mem_within.2 ⟨_, rfl, hmem⟩),
        plays_cons hone hplays⟩
    | succ i =>
      obtain ⟨draws, executed, hdraws, -, hone⟩ := hall first List.mem_cons_self
      obtain ⟨later, follow, hlater, hmem, hplays⟩ := ih hrest hi (k + 1)
      rw [← Nat.add_assoc, Nat.add_right_comm]
      exact ⟨_, _, hdraws.append hlater, List.mem_append_right _ hmem, plays_cons hone hplays⟩

theorem journal_comes {i : Nat} {e x : Effect Rat} {place : List Nat} (hi : effects[i]? = some e)
    (hcomes : Comes (journalOne story e) (place, x)) : Comes (journal story effects) (i :: place, x) := by
  obtain ⟨draws, executed, hdraws, hmem, hplays⟩ := journalFrom_comes hall hi hcomes 0
  rw [Nat.zero_add] at hmem
  exact ⟨draws, executed, hdraws, hmem, hplays {}⟩

end

/-- What an entry with a weight above zero comes to, its table comes to. -/
theorem journalOne_comes_drawn {table : List (LootEntry Rat)} {j : Nat} {entry : LootEntry Rat}
    (hj : table[j]? = some entry) (hpos : 0 < entry.weight) {draws : List Rat}
    {executed : List (Located (Effect Rat))} (hdraws : AreDraws draws)
    (hplays : Plays draws (journal story entry.item) executed) {x : Located (Effect Rat)}
    (hx : x ∈ ([], lootTable table) :: within j executed) : Comes (journalOne story (lootTable table)) x := by
  have hw : (table.map Weighted.weight)[j]? = some entry.weight := by
    rw [List.getElem?_map, hj]
    rfl
  obtain ⟨r, hr, hselects⟩ := Draw.exists_selects hw hpos
  exact ⟨r :: draws, _, List.forall_mem_cons.2 ⟨hr, hdraws⟩, hx, plays_drawn hj hselects hplays⟩

/-- Every effect comes to an end with some draws, whatever is nested in it. -/
theorem journalOne_comes (e : Effect Rat) : Comes (journalOne story e) ([], e) := by
  induction e using Effect.nested with
  | simple e hsimple => exact ⟨[], _, .nil, List.mem_singleton_self _, plays_simple hsimple⟩
  | loot table ih =>
    by_cases hsome : ∃ entry ∈ table, 0 < entry.weight
    · obtain ⟨entry, hentry, hpos⟩ := hsome
      obtain ⟨j, hj⟩ := List.mem_iff_getElem?.1 hentry
      obtain ⟨draws, executed, hdraws, hplays⟩ := journalFrom_ends (ih entry hentry) 0
      exact journalOne_comes_drawn hj hpos hdraws (hplays {}) List.mem_cons_self
    · have hnone : ∀ w ∈ table.map Weighted.weight, w ≤ 0 := by
        intro w hw
        obtain ⟨entry, hentry, rfl⟩ := List.mem_map.1 hw
        exact not_lt.1 fun hpos => hsome ⟨entry, hentry, hpos⟩
      refine ⟨[], _, .nil, List.mem_singleton_self _, plays_undrawn fun draws => ?_⟩
      refine Draw.pick_nothing (fun w _ => Rational.isNumber w) (Draw.sum_parts _) ?_ draws
      exact List.any_eq_false.2 fun w hw => mt of_decide_eq_true (not_lt.2 (hnone w hw))

/-- Every place that lies only under weights above zero is come to with some draws. -/
theorem Stands.comes {effects : List (Effect Rat)} {place : List Nat} {e : Effect Rat}
    (h : Stands (fun entry => 0 < entry.weight) effects place e) : Comes (journal story effects) (place, e) := by
  induction h with
  | top hi => exact journal_comes (fun e _ => journalOne_comes e) hi (journalOne_comes _)
  | @nested _ _ table j _ place e hi hj hpos _ ih =>
    -- The draws that lead on inside the entry are behind the one that selects it.
    obtain ⟨draws, executed, hdraws, hmem, hplays⟩ := ih
    have hinside : (j :: place, e) ∈ ([], lootTable table) :: within j executed :=
      List.mem_cons_of_mem _ (mem_within.2 ⟨_, rfl, hmem⟩)
    exact journal_comes (fun e _ => journalOne_comes e) hi
      (journalOne_comes_drawn hj hpos hdraws hplays hinside)

end Effect

/-- The values of a list, and then always the same value. -/
def Feed.leading {β : Type} (values : List β) (b : β) : Feed β := ⟨fun n => values.getD n b, 0⟩

theorem Feed.taken_leading {β : Type} (values : List β) (b : β) :
    (Feed.leading values b).taken values.length = values := by
  unfold Feed.taken Feed.leading
  refine List.ext_getElem (by simp) fun n _ hn => ?_
  simp [hn]

/-- With some source of draws between zero and one, a run executes the effect at a place, from every state of
play. -/
def Effect.Executable (story : Story Rat) (effects : List (Effect Rat)) (place : List Nat) (e : Effect Rat) : Prop :=
  ∃ draws : Feed Rat, (∀ n, 0 ≤ draws.value n ∧ draws.value n < 1) ∧ ∀ scene : Scene Rat, scene.draws = draws →
    ∃ report executed after, (journal story effects).run scene = (.ok (report, executed), after) ∧
      (place, e) ∈ executed

theorem Effect.Stands.executable {story : Story Rat} {effects : List (Effect Rat)} {place : List Nat}
    {e : Effect Rat} (h : Stands (fun entry => 0 < entry.weight) effects place e) :
    Executable story effects place e := by
  obtain ⟨draws, executed, hdraws, hmem, hplays⟩ : Comes (journal story effects) (place, e) := h.comes
  refine ⟨.leading draws 0, fun n => ?_, fun scene hscene => ?_⟩
  · show 0 ≤ draws.getD n 0 ∧ draws.getD n 0 < 1
    rw [List.getD_eq_getElem?_getD]
    cases hn : draws[n]? with
    | none => exact ⟨le_rfl, zero_lt_one⟩
    | some r => exact hdraws r (List.mem_of_getElem? hn)
  · have htaken : draws = scene.draws.taken draws.length := by rw [hscene, Feed.taken_leading]
    obtain ⟨report, after, hrun, -⟩ := hplays scene htaken
    exact ⟨report, executed, after, hrun, hmem⟩

end StoryRules
