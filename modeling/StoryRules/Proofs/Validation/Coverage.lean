import StoryRules.Proofs.Effect.Chances
import StoryRules.Proofs.Requirement.Journal

/-!
# Walks cover runs

The checks of a story walk over all effects and all conditions that are written in it.  They miss nothing that a
game can come to: the effects that a run executes and the conditions that evaluation looks at stand in the walk,
each at a place of its own and in the same order.  Nor is there too much in the walk over effects: on exact amounts
every effect that lies only under weights above zero is executed with some draws.

    walks_cover_runs :
      (∀ story effects, Covers story effects) ∧
      (∀ story effects place e, Stands (0 < ·.weight) effects place e →
        (place, e) ∈ places effects ∧ Executable story effects place e) ∧
      (∀ s r, Consults s r)

In the second part amounts are rational numbers.
-/

namespace StoryRules

namespace Effect

/-- What a run of some effects executes stands in the walk over them. -/
structure Covers {α : Type} [Number α] (story : Story α) (effects : List (Effect α)) : Prop where
  /-- The effects of the walk are those at the places of the list, and these are where effects stand in it. -/
  walked : (places effects).map Prod.snd = walk effects
  placed : ∀ place e, (place, e) ∈ places effects ↔ Stands (fun _ => True) effects place e
  /-- A run with a journal is the run. -/
  kept : Prod.fst <$> journal story effects = applyAll story effects
  /-- Whatever is drawn, what is executed are places of the walk, in its order. -/
  executed : ∀ (scene after : Scene α) (report : EffectReport),
    (applyAll story effects).run scene = (.ok report, after) →
      ∃ executed, (journal story effects).run scene = (.ok (report, executed), after) ∧
        executed.Sublist (places effects) ∧ (executed.map Prod.snd).Sublist (walk effects)

theorem covers {α : Type} [Number α] (story : Story α) (effects : List (Effect α)) : Covers story effects where
  walked := map_snd_places effects
  placed _ _ := mem_places
  kept := fst_journal story effects
  executed := by
    intro scene after report hrun
    rw [← fst_journal] at hrun
    obtain ⟨⟨_, executed⟩, hjournal, rfl⟩ := Step.run_map_eq_ok.1 hrun
    have hplaces := journal_sublist hjournal
    refine ⟨executed, hjournal, hplaces, ?_⟩
    rw [← map_snd_places]
    exact hplaces.map Prod.snd

end Effect

namespace Requirement

/-- What evaluating an optional requirement looks at stands among its conditions. -/
structure Consults (s : State Amount) (r : Option (Requirement Amount)) : Prop where
  /-- The conditions of the requirement are those at its places. -/
  listed : (places? r).map Prod.snd = conditions? r
  /-- Evaluation with a journal gives the same value and the same warnings. -/
  kept : evaluate? s r = sayOf (journal? s r)
  /-- The journal keeps exactly the places that evaluation comes to. -/
  reached : ∀ path c, (path, c) ∈ (journal? s r).2 ↔ ∃ e, r = some e ∧ Reaches s e path c
  /-- What is looked at are places of the requirement, in their order. -/
  consulted : (journal? s r).2.Sublist (places? r) ∧ ((journal? s r).2.map Prod.snd).Sublist (conditions? r)

theorem consults (s : State Amount) (r : Option (Requirement Amount)) : Consults s r where
  listed := map_snd_places? r
  kept := evaluate?_journal? s r
  reached := by
    intro path c
    cases r with
    | none => exact iff_of_false List.not_mem_nil nofun
    | some r =>
      refine (mem_journal r path).trans ⟨fun h => ⟨r, rfl, h⟩, ?_⟩
      rintro ⟨_, ⟨⟩, h⟩
      exact h
  consulted := by
    rw [← map_snd_places?]
    exact ⟨journal?_sublist s r, (journal?_sublist s r).map Prod.snd⟩

end Requirement

/-- Walks over effects and over conditions cover what runs execute and what evaluation looks at, and every effect
under weights above zero can be executed. -/
theorem walks_cover_runs :
    (∀ (story : Story Amount) (effects : List (Effect Amount)), Effect.Covers story effects) ∧
    (∀ (story : Story Rat) (effects : List (Effect Rat)) (place : List Nat) (e : Effect Rat),
      Effect.Stands (fun entry => 0 < entry.weight) effects place e →
        (place, e) ∈ Effect.places effects ∧ Effect.Executable story effects place e) ∧
    ∀ (s : State Amount) (r : Option (Requirement Amount)), Requirement.Consults s r :=
  ⟨Effect.covers, fun _ _ _ _ h => ⟨h.mem_places, h.executable⟩, Requirement.consults⟩

/-- Two chests, the one in the other, on exact amounts; what lies under the weight zero is never drawn. -/
def Effect.treasury : List (Effect Rat) :=
  [.lootTable
     [⟨1 / 2, [.addItem "coin" 1]⟩, ⟨0, [.goto "gate"]⟩,
      ⟨3 / 2, [.log "A second chest.", .lootTable [⟨0, []⟩, ⟨3, [.addCurrency "gold" 2]⟩]]⟩]]

/-- A story without rooms, for the treasury. -/
def Story.treasury : Story Rat where
  title := "The treasury"
  language := "en"
  version := "1"
  assets := []
  items := []
  currencies := []
  stats := []
  nodes := []

open Effect

theorem chest_covered :
    let scene : Scene Amount :=
      { state := State.initial .riddle none, draws := .always (.float 0.5), clock := .always 0 }
    let coinOrFlag : Requirement Amount :=
      .anyOf [.not (.condition (.hasItem (some "coin") (some 1))), .condition (.flagIs (some "lit") (some true))]
    (∃ report after executed, (applyAll Story.riddle chest).run scene = (.ok report, after) ∧
      (journal Story.riddle chest).run scene = (.ok (report, executed), after) ∧
      executed.map Prod.fst = [[0], [0, 1, 0], [0, 1, 1], [0, 1, 1, 1, 0], [1], [2]] ∧
      executed.Sublist (places chest) ∧ (executed.map Prod.snd).Sublist (walk chest)) ∧
    Stands (fun entry => 0 < entry.weight) treasury [0, 2, 1, 1, 0] (.addCurrency "gold" 2) ∧
    ([0, 2, 1, 1, 0], .addCurrency "gold" 2) ∈ places treasury ∧
    Executable Story.treasury treasury [0, 2, 1, 1, 0] (.addCurrency "gold" 2) ∧
    Requirement.Consults scene.state (some coinOrFlag) := by
  intro scene coinOrFlag
  have hstands : Stands (fun entry => 0 < entry.weight) treasury [0, 2, 1, 1, 0] (.addCurrency "gold" 2) :=
    .nested rfl rfl (by norm_num) (.nested rfl rfl (by norm_num) (.top rfl))
  obtain ⟨htreasury, hexecutable⟩ := walks_cover_runs.2.1 Story.treasury treasury _ _ hstands
  refine ⟨?run, hstands, htreasury, hexecutable, walks_cover_runs.2.2 _ _⟩
  have hplaces : ((journal Story.riddle chest).run scene).1.toOption.map (fun result => result.2.map Prod.fst) =
      some [[0], [0, 1, 0], [0, 1, 1], [0, 1, 1, 1, 0], [1], [2]] := by
    decide +kernel
  rcases hjournal : (journal Story.riddle chest).run scene with ⟨_ | ⟨report, executed⟩, after⟩
  · rw [hjournal] at hplaces
    cases hplaces
  · rw [hjournal] at hplaces
    have hrun : (applyAll Story.riddle chest).run scene = (.ok report, after) := by
      rw [← fst_journal]
      exact Step.run_map_eq_ok.2 ⟨_, hjournal, rfl⟩
    obtain ⟨_, hsame, hsublists⟩ := (walks_cover_runs.1 Story.riddle chest).executed scene after report hrun
    cases hjournal.symm.trans hsame
    exact ⟨report, after, executed, hrun, rfl, Option.some.inj hplaces, hsublists⟩

end StoryRules
