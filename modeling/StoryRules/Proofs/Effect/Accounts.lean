import StoryRules.Proofs.Draw.Nothing
import StoryRules.Proofs.Effect.Attempts

/-!
# Reports account for every attempt

A report has one line for each effect that was attempted, the loot tables among them, and one more for each
jump that came behind another.  It says that something failed just if an effect could not be done, and such an
effect changed nothing.

    (applyAll story effects).run scene = (.ok report, after) →
      report.logs.length = attempts.length + (jumps attempts - 1)      (applyAll_accounts)
-/

namespace StoryRules.Effect

variable {α : Type} [Number α] [SpoilingNumber α] {story : Story α}

/-- Drawing from a table changes no state, and comes to nothing just if no entry can be drawn. -/
theorem drawEntry_eq_none_iff (story : Story α) {table : List (LootEntry α)} {scene middle : Scene α}
    {drawn : Option Nat} (h : (drawEntry table).run scene = (.ok drawn, middle)) :
    middle.state = scene.state ∧ (drawn = none ↔ (lootTable table).Fails story) := by
  rw [run_drawEntry] at h
  rcases hpick : Draw.pick (table.map Weighted.weight) scene.draws with ⟨result, draws⟩
  rw [hpick] at h
  cases h
  refine ⟨rfl, ?_⟩
  rw [Draw.pick_eq_none_iff hpick, List.any_map, List.any_eq_false]
  simp [Fails]

/-- What an attempt that came to an end says and does. -/
theorem Tried.reports {e : Effect α} {scene after : Scene α} {report : EffectReport}
    {opened : List (Effect α)} (h : Tried story scene e report opened after) :
    Reports story e scene report after := by
  cases h with
  | simple hsimple hrun => exact applySimple_reports hsimple hrun
  | empty =>
    exact ⟨rfl, iff_of_true rfl fun _ hentry => absurd hentry List.not_mem_nil, fun _ => rfl⟩
  | nothing hdraw =>
    obtain ⟨hstate, hnone⟩ := drawEntry_eq_none_iff story hdraw
    exact ⟨rfl, iff_of_true rfl (hnone.1 rfl), fun _ => hstate⟩
  | @drawn _ i _ hdraw =>
    obtain ⟨hstate, hnone⟩ := drawEntry_eq_none_iff story hdraw
    have hdrawn : ¬ Fails story _ := mt hnone.2 (Option.some_ne_none i)
    exact ⟨rfl, iff_of_false Bool.false_ne_true.symm hdrawn, fun _ => hstate⟩

/-- The attempts that a list of effects comes to are determined by the scene it is applied in.  The report has
a line for each of them and one more for each jump but the first, and it tells of a failure just if one of them
could not be done.  What could not be done left the state as it was. -/
theorem applyAll_accounts (story : Story α) {effects : List (Effect α)} {scene after : Scene α}
    {report : EffectReport} (h : (applyAll story effects).run scene = (.ok report, after)) :
    ∃ attempts, Attempts story scene effects attempts after [] ∧
      (∀ others last, Attempts story scene effects others last [] → others = attempts) ∧
      report.logs.length = attempts.length + (jumps attempts - 1) ∧
      (report.success = false ↔ ∃ a ∈ attempts, a.effect.Fails story) ∧
      ∀ a ∈ attempts, a.effect.Fails story → a.after = a.before := by
  have hends := applyAll_ends story effects scene
  rw [h] at hends
  cases hends with
  | @finished attempts _ _ hattempts haccounts =>
    have hreports : ∀ a ∈ attempts, (a.report.success = false ↔ a.effect.Fails story) ∧
        (a.effect.Fails story → a.after = a.before) :=
      hattempts.forall_mem fun hrun =>
        have hreports := (attempt_tried hrun).reports
        ⟨hreports.success, hreports.kept⟩
    refine ⟨attempts, hattempts, fun others last h' => (hattempts.unique h').1, ?_, ?_,
      fun a ha => (hreports a ha).2⟩
    · simpa using haccounts.lines
    · have hall : report.success = attempts.all (·.report.success) := haccounts.success
      rw [hall, List.all_eq_false]
      constructor
      · rintro ⟨a, ha, hfailed⟩
        exact ⟨a, ha, (hreports a ha).1.1 (by simpa using hfailed)⟩
      · rintro ⟨a, ha, hfails⟩
        exact ⟨a, ha, by simp [(hreports a ha).1.2 hfails]⟩

/-- A trap door, with a second jump and a missing item behind it. -/
def trapDoor : List (Effect Amount) :=
  [.goto "gate", .lootTable [⟨.int 1, [.goto "end", .addItem "ghost" 1]⟩], .lootTable [⟨.int 0, []⟩]]

theorem trapDoor_accounts :
    let scene : Scene Amount :=
      { state := State.initial .riddle none, draws := .always (.float 0.5), clock := .always 0 }
    ∃ report after, (applyAll Story.riddle trapDoor).run scene = (.ok report, after) ∧
      report.logs.length = 6 ∧ report.success = false ∧
      ∃ attempts, Attempts Story.riddle scene trapDoor attempts after [] ∧
        (∀ others last, Attempts Story.riddle scene trapDoor others last [] → others = attempts) ∧
        report.logs.length = attempts.length + (jumps attempts - 1) ∧
        (report.success = false ↔ ∃ a ∈ attempts, a.effect.Fails Story.riddle) ∧
        ∀ a ∈ attempts, a.effect.Fails Story.riddle → a.after = a.before := by
  intro scene
  have hreport : ((applyAll Story.riddle trapDoor).run scene).1.toOption.map
      (fun report => (report.logs.length, report.success)) = some (6, false) := by
    decide +kernel
  rcases hrun : (applyAll Story.riddle trapDoor).run scene with ⟨_ | report, after⟩
  · rw [hrun] at hreport
    cases hreport
  · rw [hrun] at hreport
    obtain ⟨hlines, hsuccess⟩ := Prod.mk.inj (Option.some.inj hreport)
    exact ⟨report, after, rfl, hlines, hsuccess, applyAll_accounts Story.riddle hrun⟩

end StoryRules.Effect
