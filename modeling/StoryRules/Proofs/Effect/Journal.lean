import StoryRules.Proofs.Effect.Trace
import StoryRules.Proofs.Nesting

/-!
# Journals of effects

A journal keeps the effects that a run executes, each with its place in the list, in the order in which they
are executed; a loot table stands in it before what is drawn from it.  Keeping a journal changes nothing else,
and what it keeps was walked over in the same order before the run.

    Prod.fst <$> journal story effects = applyAll story effects                       (fst_journal)
    (journal story effects).run scene = (.ok (report, executed), after) →
      executed.Sublist (places effects)                                               (journal_sublist)
-/

namespace StoryRules.Effect

open Located

variable {α : Type}

/-! ## Places -/

mutual

/-- The effect itself, and what is nested in it, with places. -/
def placesOne : Effect α → List (Located (Effect α))
  | .lootTable table => ([], .lootTable table) :: placesEntries 0 table
  | e => [([], e)]

/-- The effects of a list, the first of which has the number `k`, each with all that is nested in it. -/
def placesFrom (k : Nat) : List (Effect α) → List (Located (Effect α))
  | [] => []
  | e :: rest => within k (placesOne e) ++ placesFrom (k + 1) rest

def placesEntries (k : Nat) : List (Weighted α (List (Effect α))) → List (Located (Effect α))
  | [] => []
  | ⟨_, effects⟩ :: rest => within k (placesFrom 0 effects) ++ placesEntries (k + 1) rest

end

/-- Every effect that a walk comes to, with its place. -/
def places (effects : List (Effect α)) : List (Located (Effect α)) := placesFrom 0 effects

theorem map_snd_placesFrom {effects : List (Effect α)}
    (h : ∀ e ∈ effects, (placesOne e).map Prod.snd = walkOne e) :
    ∀ k, (placesFrom k effects).map Prod.snd = walk effects := by
  induction effects with
  | nil => exact fun _ => rfl
  | cons e rest ih =>
    intro k
    rw [placesFrom, walk, List.map_append, map_snd_within, h e List.mem_cons_self,
      ih fun x hx => h x (List.mem_cons_of_mem _ hx)]

theorem map_snd_placesEntries {table : List (LootEntry α)}
    (h : ∀ entry ∈ table, ∀ e ∈ entry.item, (placesOne e).map Prod.snd = walkOne e) :
    ∀ k, (placesEntries k table).map Prod.snd = walkEntries table := by
  induction table with
  | nil => exact fun _ => rfl
  | cons entry rest ih =>
    intro k
    rw [placesEntries, walkEntries, List.map_append, map_snd_within,
      map_snd_placesFrom (h entry List.mem_cons_self), ih fun x hx => h x (List.mem_cons_of_mem _ hx)]

theorem placesOne_of_simple {e : Effect α} (h : ∀ table, e ≠ lootTable table) : placesOne e = [([], e)] := by
  cases e with
  | lootTable table => exact absurd rfl (h table)
  | _ => rfl

theorem map_snd_placesOne (e : Effect α) : (placesOne e).map Prod.snd = walkOne e := by
  induction e using Effect.nested with
  | simple e hsimple =>
    rw [placesOne_of_simple hsimple]
    cases e with
    | lootTable table => exact absurd rfl (hsimple table)
    | _ => rfl
  | loot table ih =>
    rw [placesOne, walkOne, List.map_cons, map_snd_placesEntries ih]

/-- Without the places they are the effects of the walk. -/
theorem map_snd_places (effects : List (Effect α)) : (places effects).map Prod.snd = walk effects :=
  map_snd_placesFrom (fun e _ => map_snd_placesOne e) 0

/-- An effect stands at a place of a list, where `under` holds of every entry that it is nested in. -/
inductive Stands (under : LootEntry α → Prop) : List (Effect α) → List Nat → Effect α → Prop
  | top {effects : List (Effect α)} {i : Nat} {e : Effect α} : effects[i]? = some e → Stands under effects [i] e
  | nested {effects : List (Effect α)} {i : Nat} {table : List (LootEntry α)} {j : Nat} {entry : LootEntry α}
    {place : List Nat} {e : Effect α} : effects[i]? = some (.lootTable table) → table[j]? = some entry →
    under entry → Stands under entry.item place e → Stands under effects (i :: j :: place) e

section

variable {effects : List (Effect α)} {table : List (LootEntry α)} {k : Nat} {place : List Nat} {x : Effect α}

theorem mem_placesFrom : (place, x) ∈ placesFrom k effects ↔
    ∃ i e tail, effects[i]? = some e ∧ place = (k + i) :: tail ∧ (tail, x) ∈ placesOne e :=
  mem_numbered (fun k => by rw [placesFrom]) fun k e rest => by rw [placesFrom]

theorem mem_placesEntries : (place, x) ∈ placesEntries k table ↔
    ∃ j entry tail, table[j]? = some entry ∧ place = (k + j) :: tail ∧ (tail, x) ∈ places entry.item :=
  mem_numbered (fun k => by rw [placesEntries]) fun k entry rest => by rw [placesEntries, places]

theorem mem_places_cons {i : Nat} {tail : List Nat} {e : Effect α} (hi : effects[i]? = some e)
    (hx : (tail, x) ∈ placesOne e) : (i :: tail, x) ∈ places effects :=
  mem_placesFrom.2 ⟨i, e, tail, hi, by rw [Nat.zero_add], hx⟩

theorem Stands.mem_places {under : LootEntry α → Prop} (h : Stands under effects place x) :
    (place, x) ∈ places effects := by
  induction h with
  | @top _ _ e hi => exact mem_places_cons hi (by cases e <;> simp [placesOne])
  | @nested _ _ _ j _ _ _ hi hj _ _ ih =>
    refine mem_places_cons hi ?_
    rw [placesOne]
    exact List.mem_cons_of_mem _ (mem_placesEntries.2 ⟨j, _, _, hj, by rw [Nat.zero_add], ih⟩)

/-- What is listed for an effect stands in every list with this effect. -/
theorem stands_of_mem_placesOne {e : Effect α} : ∀ {tail : List Nat} {effects : List (Effect α)} {i : Nat},
    (tail, x) ∈ placesOne e → effects[i]? = some e → Stands (fun _ => True) effects (i :: tail) x := by
  induction e using Effect.nested with
  | simple e hsimple =>
    intro tail effects i hx hi
    rw [placesOne_of_simple hsimple] at hx
    obtain ⟨rfl, rfl⟩ := Prod.mk.inj (List.mem_singleton.1 hx)
    exact .top hi
  | loot table ih =>
    intro tail effects i hx hi
    rw [placesOne] at hx
    obtain hx | hx := List.mem_cons.1 hx
    · obtain ⟨rfl, rfl⟩ := Prod.mk.inj hx
      exact .top hi
    · obtain ⟨j, entry, inner, hj, rfl, hinner⟩ := mem_placesEntries.1 hx
      obtain ⟨n, e, _, hn, rfl, he⟩ := mem_placesFrom.1 hinner
      rw [Nat.zero_add, Nat.zero_add]
      exact .nested hi hj trivial (ih entry (List.mem_of_getElem? hj) e (List.mem_of_getElem? hn) he hn)

/-- The places are exactly those at which effects stand. -/
theorem mem_places : (place, x) ∈ places effects ↔ Stands (fun _ => True) effects place x := by
  refine ⟨fun h => ?_, Stands.mem_places⟩
  obtain ⟨i, e, tail, hi, rfl, hx⟩ := mem_placesFrom.1 h
  rw [Nat.zero_add]
  exact stands_of_mem_placesOne hx hi

end

/-! ## Journals -/

variable [Number α]

mutual

/-- Applies an effect and keeps a journal. -/
def journalOne (story : Story α) : Effect α → Run α (EffectReport × List (Located (Effect α)))
  | .lootTable table =>
    if table.isEmpty then (·, [([], .lootTable table)]) <$> fail .lootEmpty
    else do
      match ← drawEntry table with
      | none => (·, [([], .lootTable table)]) <$> fail .lootWeightless
      | some i =>
        let (drawn, nested) ← journalEntry story 0 table i
        return ((EffectReport.ok "Loot table rolled:").absorb drawn, ([], .lootTable table) :: nested)
  | e => (·, [([], e)]) <$> applySimple story e

/-- Applies the rest of a list, the first effect of which has the number `k`, after what `report` says. -/
def journalFrom (story : Story α) (k : Nat) (report : EffectReport) :
    List (Effect α) → Run α (EffectReport × List (Located (Effect α)))
  | [] => return (report, [])
  | e :: rest => do
    let (next, first) ← journalOne story e
    let (last, later) ← journalFrom story (k + 1) (report.absorb next) rest
    return (last, within k first ++ later)

/-- Applies the effects of the entry at a position, counted from the entry with the number `k`. -/
def journalEntry (story : Story α) (k : Nat) :
    List (Weighted α (List (Effect α))) → Nat → Run α (EffectReport × List (Located (Effect α)))
  | [], _ => return ({}, [])
  | ⟨_, effects⟩ :: _, 0 => do
    let (report, nested) ← journalFrom story 0 {} effects
    return (report, within k nested)
  | _ :: rest, i + 1 => journalEntry story (k + 1) rest i

end

/-- Applies a list of effects and keeps a journal. -/
def journal (story : Story α) (effects : List (Effect α)) : Run α (EffectReport × List (Located (Effect α))) :=
  journalFrom story 0 {} effects

variable {story : Story α}

theorem journalOne_of_simple {e : Effect α} (h : ∀ table, e ≠ lootTable table) :
    journalOne story e = (·, [([], e)]) <$> applySimple story e := by
  cases e with
  | lootTable table => exact absurd rfl (h table)
  | _ =>
    rw [journalOne]
    exact h

/-! ## Keeping a journal changes nothing -/

theorem fst_journalFrom {effects : List (Effect α)}
    (h : ∀ e ∈ effects, Prod.fst <$> journalOne story e = applyOne story e) :
    ∀ k report, Prod.fst <$> journalFrom story k report effects = applyFrom story report effects := by
  induction effects with
  | nil =>
    intro k report
    rw [journalFrom, applyFrom, map_pure]
  | cons e rest ih =>
    intro k report
    rw [journalFrom, applyFrom, ← h e List.mem_cons_self, map_bind, bind_map_left]
    refine bind_congr fun first => ?_
    rw [map_bind, ← ih (fun x hx => h x (List.mem_cons_of_mem _ hx)) (k + 1)]
    simp only [map_pure]
    exact bind_pure_comp _ _

theorem fst_journalEntry {table : List (LootEntry α)}
    (h : ∀ entry ∈ table, ∀ e ∈ entry.item, Prod.fst <$> journalOne story e = applyOne story e) :
    ∀ k i, Prod.fst <$> journalEntry story k table i = applyEntry story table i := by
  induction table with
  | nil =>
    intro k i
    rw [journalEntry, applyEntry, map_pure]
  | cons entry rest ih =>
    intro k i
    cases i with
    | zero =>
      rw [journalEntry, applyEntry, ← fst_journalFrom (h entry List.mem_cons_self) 0, map_bind]
      simp only [map_pure]
      exact bind_pure_comp _ _
    | succ i =>
      rw [journalEntry, applyEntry]
      exact ih (fun x hx => h x (List.mem_cons_of_mem _ hx)) (k + 1) i

theorem fst_journalOne (e : Effect α) : Prod.fst <$> journalOne story e = applyOne story e := by
  induction e using Effect.nested with
  | simple e hsimple =>
    rw [journalOne_of_simple hsimple, applyOne_of_simple hsimple, Functor.map_map, id_map']
  | loot table ih =>
    rw [journalOne, applyOne]
    split
    · rw [Functor.map_map, id_map']
    · rw [map_bind]
      refine bind_congr fun drawn => ?_
      cases drawn with
      | none => rw [Functor.map_map, id_map']
      | some i =>
        dsimp only
        rw [map_bind, ← fst_journalEntry ih 0, bind_map_left]
        simp only [map_pure]

/-- A run that keeps a journal is the run without it. -/
theorem fst_journal (story : Story α) (effects : List (Effect α)) :
    Prod.fst <$> journal story effects = applyAll story effects :=
  fst_journalFrom (fun e _ => fst_journalOne e) 0 {}

/-! ## A journal follows the walk -/

/-- A run that keeps a journal keeps some of these effects, in their order. -/
def Follows (step : Run α (EffectReport × List (Located (Effect α)))) (walked : List (Located (Effect α))) :
    Prop :=
  Keeps (fun _ => True) step fun result => result.2.Sublist walked

omit [Number α] in
theorem Follows.of_simple {e : Effect α} (step : Run α EffectReport) :
    Follows ((·, [([], e)]) <$> step) [([], e)] := by
  have hstep : Keeps (fun _ => True) step fun _ => True := fun _ _ => ⟨trivial, fun _ _ => trivial⟩
  exact hstep.map fun _ _ => List.Sublist.refl _

theorem journalFrom_follows {effects : List (Effect α)}
    (h : ∀ e ∈ effects, Follows (journalOne story e) (placesOne e)) :
    ∀ k report, Follows (journalFrom story k report effects) (placesFrom k effects) := by
  induction effects with
  | nil =>
    intro k report
    rw [journalFrom]
    exact Keeps.pure (List.Sublist.refl _)
  | cons e rest ih =>
    intro k report
    rw [journalFrom, placesFrom]
    refine (h e List.mem_cons_self).bind fun first hfirst => ?_
    refine (ih (fun x hx => h x (List.mem_cons_of_mem _ hx)) _ _).bind fun later hlater => ?_
    exact Keeps.pure ((within_sublist hfirst k).append hlater)

theorem journalEntry_follows {table : List (LootEntry α)}
    (h : ∀ entry ∈ table, ∀ e ∈ entry.item, Follows (journalOne story e) (placesOne e)) :
    ∀ k i, Follows (journalEntry story k table i) (placesEntries k table) := by
  induction table with
  | nil =>
    intro k i
    rw [journalEntry]
    exact Keeps.pure (List.Sublist.refl _)
  | cons entry rest ih =>
    intro k i
    cases i with
    | zero =>
      rw [journalEntry, placesEntries]
      refine (journalFrom_follows (h entry List.mem_cons_self) 0 {}).bind fun nested hnested => ?_
      exact Keeps.pure ((within_sublist hnested k).trans (List.sublist_append_left _ _))
    | succ i =>
      rw [journalEntry, placesEntries]
      refine (ih (fun x hx => h x (List.mem_cons_of_mem _ hx)) (k + 1) i).mono fun result hresult => ?_
      exact hresult.trans (List.sublist_append_right _ _)

theorem journalOne_follows (e : Effect α) : Follows (journalOne story e) (placesOne e) := by
  induction e using Effect.nested with
  | simple e hsimple =>
    rw [journalOne_of_simple hsimple, placesOne_of_simple hsimple]
    exact Follows.of_simple _
  | loot table ih =>
    -- Where nothing is drawn the table stands in the journal alone.
    have halone : ∀ step : Run α EffectReport,
        Follows ((·, [([], lootTable table)]) <$> step) (placesOne (lootTable table)) := by
      intro step
      rw [placesOne]
      exact (Follows.of_simple step).mono fun result hresult => hresult.trans (by simp)
    rw [journalOne]
    split
    · exact halone _
    · refine Keeps.bind (R := fun _ => True) (fun _ _ => ⟨trivial, fun _ _ => trivial⟩) fun drawn _ => ?_
      cases drawn with
      | none => exact halone _
      | some i =>
        refine (journalEntry_follows ih 0 i).bind fun nested hnested => ?_
        rw [placesOne]
        exact Keeps.pure (hnested.cons_cons _)

/-- The effects that a run executes stand in the list in the order in which they are executed. -/
theorem journal_sublist {effects : List (Effect α)} {scene after : Scene α} {report : EffectReport}
    {executed : List (Located (Effect α))}
    (h : (journal story effects).run scene = (.ok (report, executed), after)) :
    executed.Sublist (places effects) := by
  have hfollows : Follows (journal story effects) (places effects) :=
    journalFrom_follows (fun e _ => journalOne_follows e) 0 {}
  exact (hfollows scene trivial).2 (report, executed) (congrArg Prod.fst h)

end StoryRules.Effect
