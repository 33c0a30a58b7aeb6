import StoryRules.Effect

/-!
# Walking effects

Effects nest through loot tables.  `Effect.nested` is induction over that nesting, and a walk lists
exactly the effects of a list with all that is nested in them.
-/

namespace StoryRules.Effect

variable {α : Type}

/-- Induction over nested effects: what holds of every effect in a table holds of the table. -/
theorem nested {motive : Effect α → Prop} (simple : ∀ e, (∀ table, e ≠ lootTable table) → motive e)
    (loot : ∀ table, (∀ entry ∈ table, ∀ e ∈ entry.item, motive e) → motive (lootTable table))
    (e : Effect α) : motive e := by
  refine Effect.rec (motive_1 := motive)
    (motive_2 := fun table => ∀ entry ∈ table, ∀ e ∈ entry.item, motive e)
    (motive_3 := fun entry => ∀ e ∈ entry.item, motive e)
    (motive_4 := fun effects => ∀ e ∈ effects, motive e)
    ?_ ?_ ?_ ?_ ?_ ?_ ?_ ?_ ?_ ?_ ?table ?noEntry ?entries ?entry ?noEffect ?effects e
  case table => exact loot
  case noEntry => simp
  case entries =>
    intro entry table hentry htable
    simpa using ⟨hentry, htable⟩
  case entry => exact fun _ _ h => h
  case noEffect => simp
  case effects =>
    intro e rest he hrest
    simpa using ⟨he, hrest⟩
  all_goals
    intros
    apply simple
    rintro table ⟨⟩

theorem mem_walk {x : Effect α} {effects : List (Effect α)} :
    x ∈ walk effects ↔ ∃ e ∈ effects, x ∈ walkOne e := by
  induction effects with
  | nil => simp [walk]
  | cons e rest ih => simp [walk, ih]

theorem mem_walkEntries {x : Effect α} {table : List (LootEntry α)} :
    x ∈ walkEntries table ↔ ∃ entry ∈ table, x ∈ walk entry.item := by
  induction table with
  | nil => simp [walkEntries]
  | cons entry rest ih => simp [walkEntries, ih]

theorem mem_walkOne_self (e : Effect α) : e ∈ walkOne e := by
  cases e <;> simp [walkOne]

theorem mem_walkOne_loot {x e : Effect α} {entry : LootEntry α} {table : List (LootEntry α)}
    (hentry : entry ∈ table) (he : e ∈ entry.item) (hx : x ∈ walkOne e) :
    x ∈ walkOne (lootTable table) := by
  rw [walkOne, List.mem_cons, mem_walkEntries]
  exact .inr ⟨entry, hentry, mem_walk.2 ⟨e, he, hx⟩⟩

end StoryRules.Effect
