import StoryRules.Proofs.Effect.Trace

/-!
# Which jump counts

Effects are performed one after the other, those that are drawn from a loot table in the place of the table.
Among them the first jump counts.  Nothing is asked of the weights of the tables here, which may be no
numbers at all.

    (applyAll story effects).run scene = (.ok report, after) →
      ∃ performed, Performs story scene effects performed after ∧
        report.goto = performed.findSome? target?      (applyAll_performs)
-/

namespace StoryRules.Effect

variable {α : Type} [Number α]

/-- The effects of a list that are performed between two scenes.  A loot table from which nothing is drawn
is logged and passed over. -/
inductive Performs (story : Story α) :
    Scene α → List (Effect α) → (performed : List (Effect α)) → Scene α → Prop
  | done {scene : Scene α} : Performs story scene [] [] scene
  | single {scene middle after : Scene α} {e : Effect α} {rest performed : List (Effect α)}
    {report : EffectReport} :
    e.isLoot = false → (applySimple story e).run scene = (.ok report, middle) →
    Performs story middle rest performed after →
    Performs story scene (e :: rest) (e :: performed) after
  | empty {scene after : Scene α} {rest performed : List (Effect α)} :
    Performs story { scene with log := scene.log ++ [.lootEmpty] } rest performed after →
    Performs story scene (lootTable [] :: rest) performed after
  | nothing {scene middle after : Scene α} {table : List (LootEntry α)}
    {rest performed : List (Effect α)} :
    (drawEntry table).run scene = (.ok none, middle) →
    Performs story { middle with log := middle.log ++ [.lootWeightless] } rest performed after →
    Performs story scene (lootTable table :: rest) performed after
  | drawn {scene middle left after : Scene α} {table : List (LootEntry α)} {i : Nat}
    {entry : LootEntry α} {rest nested performed : List (Effect α)} :
    (drawEntry table).run scene = (.ok (some i), middle) → table[i]? = some entry →
    Performs story middle entry.item nested left → Performs story left rest performed after →
    Performs story scene (lootTable table :: rest) (nested ++ performed) after

variable {story : Story α}

theorem Performs.append {xs ys performed more : List (Effect α)} {scene middle after : Scene α}
    (hx : Performs story scene xs performed middle) (hy : Performs story middle ys more after) :
    Performs story scene (xs ++ ys) (performed ++ more) after := by
  induction hx with
  | done => exact hy
  | single hsimple hrun _ ih => exact .single hsimple hrun (ih hy)
  | empty _ ih => exact .empty (ih hy)
  | nothing hdraw _ ih => exact .nothing hdraw (ih hy)
  | drawn hdraw hentry hnested _ _ ih =>
    rw [List.append_assoc]
    exact .drawn hdraw hentry hnested (ih hy)

/-- A position that is drawn is one of the table. -/
theorem getElem?_of_drawEntry {table : List (LootEntry α)} {scene middle : Scene α} {i : Nat}
    (h : (drawEntry table).run scene = (.ok (some i), middle)) : ∃ entry, table[i]? = some entry := by
  have hpart : ∀ {v : α}, ((table.map Weighted.weight).map Draw.positivePart)[i]? = some v →
      ∃ entry, table[i]? = some entry := by
    intro v hv
    rw [List.map_map, List.getElem?_map] at hv
    obtain ⟨entry, hentry, -⟩ := Option.map_eq_some_iff.1 hv
    exact ⟨entry, hentry⟩
  rw [run_drawEntry] at h
  have hpick := (Prod.mk.inj h).1
  unfold Draw.pick at hpick
  dsimp only at hpick
  split at hpick
  · cases hpick
  · split at hpick
    · cases hpick
    · unfold Draw.position at hpick
      obtain ⟨roll, -, hpick⟩ := bind_eq_ok.1 hpick
      obtain ⟨settled, hsettled, hpick⟩ := bind_eq_ok.1 hpick
      cases settled with
      | some j =>
        cases hpick
        obtain ⟨-, v, hv, -⟩ := Draw.settle_bounds hsettled
        exact hpart hv
      | none =>
        -- the roll settles at no position, and the last positive weight is taken
        obtain ⟨-, v, hv, -⟩ := Draw.lastPositive?_bounds (Except.ok.inj hpick)
        exact hpart hv

/-- What the run of an effect, or of a list of effects, comes to. -/
def Tells (story : Story α) (effects : List (Effect α)) (scene after : Scene α)
    (goto : Option String) : Prop :=
  ∃ performed, Performs story scene effects performed after ∧ goto = performed.findSome? target?

theorem applyFrom_tells {effects : List (Effect α)}
    (h : ∀ e ∈ effects, ∀ {scene after : Scene α} {report : EffectReport},
      (applyOne story e).run scene = (.ok report, after) → Tells story [e] scene after report.goto) :
    ∀ {so : EffectReport} {scene after : Scene α} {report : EffectReport},
      (applyFrom story so effects).run scene = (.ok report, after) →
        ∃ goto, report.goto = so.goto.or goto ∧ Tells story effects scene after goto := by
  induction effects with
  | nil =>
    intro so scene after report hrun
    rw [applyFrom] at hrun
    cases hrun
    exact ⟨none, (Option.or_none).symm, [], .done, rfl⟩
  | cons e rest ih =>
    intro so scene after report hrun
    rw [applyFrom] at hrun
    obtain ⟨next, middle, hone, hrest⟩ := Step.run_bind_eq_ok.1 hrun
    obtain ⟨performed, hfirst, hnext⟩ := h e List.mem_cons_self hone
    obtain ⟨goto, hgoto, more, hlater, rfl⟩ :=
      ih (fun x hx => h x (List.mem_cons_of_mem _ hx)) hrest
    refine ⟨_, ?_, performed ++ more, hfirst.append hlater, rfl⟩
    -- a report keeps the jump that it already has
    rw [List.findSome?_append, ← hnext, hgoto, goto_absorb, Option.or_assoc]

theorem applyOne_tells {e : Effect α} :
    ∀ {scene after : Scene α} {report : EffectReport},
      (applyOne story e).run scene = (.ok report, after) → Tells story [e] scene after report.goto := by
  induction e using Effect.nested with
  | simple e hsimple =>
    intro scene after report hrun
    rw [applyOne_of_simple hsimple] at hrun
    obtain ⟨-, hgoto⟩ := applySimple_keeps story e scene.draws scene rfl
    rw [hrun] at hgoto
    refine ⟨[e], .single (isLoot_eq_false.2 hsimple) hrun .done, ?_⟩
    rw [hgoto report rfl, List.findSome?_cons]
    cases e.target? <;> rfl
  | loot table ih =>
    intro scene after report hrun
    rw [applyOne] at hrun
    split at hrun
    · next hempty =>
      obtain rfl := List.isEmpty_iff.1 hempty
      cases hrun
      exact ⟨[], .empty .done, rfl⟩
    · obtain ⟨drawn, middle, hdraw, hrest⟩ := Step.run_bind_eq_ok.1 hrun
      cases drawn with
      | none =>
        cases hrest
        exact ⟨[], .nothing hdraw .done, rfl⟩
      | some i =>
        obtain ⟨found, last, happly, hlast⟩ := Step.run_bind_eq_ok.1 hrest
        cases hlast
        -- what is drawn stands for the table, so its first jump is that of the table
        obtain ⟨entry, hentry⟩ := getElem?_of_drawEntry hdraw
        rw [applyEntry_of_getElem? hentry] at happly
        obtain ⟨goto, hgoto, performed, hnested, rfl⟩ :=
          applyFrom_tells (ih entry (List.mem_of_getElem? hentry)) happly
        refine ⟨performed ++ [], .drawn hdraw hentry hnested .done, ?_⟩
        rw [goto_absorb, hgoto, List.append_nil]
        rfl

/-- The jump that a list of effects asks for is the first one among those that are performed. -/
theorem applyAll_performs {effects : List (Effect α)} {scene after : Scene α} {report : EffectReport}
    (h : (applyAll story effects).run scene = (.ok report, after)) :
    ∃ performed, Performs story scene effects performed after ∧
      report.goto = performed.findSome? target? := by
  obtain ⟨goto, hgoto, htells⟩ := applyFrom_tells (fun _ _ => applyOne_tells) h
  obtain rfl : report.goto = goto := hgoto
  exact htells

end StoryRules.Effect
