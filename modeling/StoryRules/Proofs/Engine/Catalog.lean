import StoryRules.Proofs.Engine.Invariant
import StoryRules.Proofs.Validation.Sound

/-!
# Catalogs bound the state

However a valid story is played, its stats stay within their bounds, nothing is held that the story does
not declare, no more is held than may be, and no currency falls below zero.

    s.Valid language → state.InCatalog setup.story      for every state that is reached  (play_inCatalog)
-/

namespace StoryRules

variable {α : Type}

/-- How much of an item may be held. -/
structure Item.Allows (item : Item) (quantity : Int) : Prop where
  nonneg : 0 ≤ quantity
  single : item.stackable = false → quantity ≤ 1
  stack : item.stackable = true → ∀ most, item.maxStack = some most → quantity ≤ max 0 most

/-- A clamped quantity is allowed, whatever it was. -/
theorem Item.allows_clamp (item : Item) (quantity : Int) :
    item.Allows (Effect.clampQuantity item quantity) := by
  unfold Effect.clampQuantity
  cases hstack : item.stackable with
  | false =>
    refine ⟨?_, fun _ => ?_, fun h => ?_⟩
    · exact Int.le_max_left 0 _
    · show max 0 (min quantity 1) ≤ 1
      omega
    · rw [hstack] at h
      cases h
  | true =>
    cases hmost : item.maxStack with
    | none =>
      refine ⟨Int.le_max_left 0 _, fun h => ?_, fun _ most h => ?_⟩
      · rw [hstack] at h
        cases h
      · rw [hmost] at h
        cases h
    | some most =>
      refine ⟨Int.le_max_left 0 _, fun h => ?_, fun _ most' h => ?_⟩
      · rw [hstack] at h
        cases h
      · cases hmost.symm.trans h
        show max 0 (min quantity most) ≤ max 0 most
        omega

variable [Number α]

/-- What the catalogs of a story say of a state. -/
structure State.InCatalog (story : Story α) (s : State α) : Prop where
  present : ∀ t ∈ story.stats, s.stats.has t.id = true
  stat : ∀ entry ∈ s.stats, ∃ t, story.stat? entry.1 = some t ∧
    Number.atMost t.min entry.2 = true ∧ Number.atMost entry.2 t.max = true
  item : ∀ entry ∈ s.inventory, ∃ item, story.item? entry.1 = some item ∧ item.Allows entry.2
  currency : ∀ entry ∈ s.currencies, Number.atMost (Number.whole 0) entry.2 = true

/-- The bounds of all stats are exact amounts. -/
def Story.ExactStats (exact : α → Prop) (story : Story α) : Prop :=
  ∀ t ∈ story.stats, exact t.min ∧ exact t.start ∧ exact t.max

variable {exact : α → Prop} {story : Story α}

theorem initial_inCatalog (order : Number.Ordered exact) (hstory : story.Orderly)
    (start : Option String) : (State.initial story start).InCatalog story where
  present t ht := by
    show (Table.ofEntries (story.stats.map fun t => (t.id, t.start))).has t.id = true
    rw [Table.has_ofEntries, Table.has_iff]
    exact List.mem_map.2 ⟨(t.id, t.start), List.mem_map_of_mem ht, rfl⟩
  stat entry hentry := by
    obtain ⟨t, ht, rfl⟩ := List.mem_map.1 (Table.mem_ofEntries hentry)
    exact ⟨t, find?_of_nodup hstory.statIds ht, hstory.bounds t ht⟩
  item entry hentry := by
    obtain ⟨item, hitem, rfl⟩ := List.mem_map.1 (Table.mem_ofEntries hentry)
    refine ⟨item, find?_of_nodup hstory.itemIds hitem, Int.le_refl 0, fun _ => Int.one_nonneg, ?_⟩
    exact fun _ most _ => Int.le_max_left 0 most
  currency entry hentry := by
    obtain ⟨c, -, rfl⟩ := List.mem_map.1 (Table.mem_ofEntries hentry)
    exact order.refl _ (order.whole 0)

/-! ## Changes -/

/-- No effect leads out of the catalogs. -/
theorem inCatalog_change (order : Number.Ordered exact) (hstory : story.Orderly)
    (hexact : story.ExactStats exact) {e : Effect α} {s s' : State α} (hs : s.InCatalog story)
    (h : Effect.Change story s e s') : s'.InCatalog story := by
  have held : ∀ {id : String} {item : Item} (quantity : Int), story.item? id = some item →
      State.InCatalog story
        { s with inventory := s.inventory.put id (Effect.clampQuantity item quantity) } := by
    intro id item quantity hitem
    refine ⟨hs.present, hs.stat, fun entry hentry => ?_, hs.currency⟩
    rcases Table.mem_put hentry with rfl | hentry
    · exact ⟨item, hitem, item.allows_clamp quantity⟩
    · exact hs.item entry hentry
  cases h with
  | added hitem => exact held _ hitem
  | removed hitem => exact held _ hitem
  | currency htotal =>
    refine ⟨hs.present, hs.stat, hs.item, fun entry hentry => ?_⟩
    rcases Table.mem_put hentry with rfl | hentry
    · exact Number.atMost_larger (order.refl _ (order.whole 0))
    · exact hs.currency entry hentry
  | stat hstat htotal =>
    have hmem := List.mem_of_find?_eq_some hstat
    obtain ⟨hmin, hstart, hmax⟩ := hexact _ hmem
    obtain ⟨hlow, hhigh⟩ := hstory.bounds _ hmem
    refine ⟨fun t ht => ?_, fun entry hentry => ?_, hs.item, hs.currency⟩
    · rw [Table.has_put, hs.present t ht, Bool.or_true]
    · rcases Table.mem_put hentry with rfl | hentry
      · have hbounds := order.trans _ _ _ hmin hstart hmax hlow hhigh
        exact ⟨_, hstat, order.within hmin hmax hbounds _⟩
      · exact hs.stat entry hentry
  | _ => exact ⟨hs.present, hs.stat, hs.item, hs.currency⟩

/-! ## Runs -/

theorem cataloguing_upheld {setup : Setup α} (order : Number.Ordered exact)
    (hstory : setup.story.Orderly) (hexact : setup.story.ExactStats exact) :
    (Invariant.ofState (State.InCatalog setup.story)).Upheld setup := by
  refine Invariant.ofState_upheld (fun s n hn hs => ?_) fun s e s' hs h => ?_
  · unfold State.visit
    split <;> exact ⟨hs.present, hs.stat, hs.item, hs.currency⟩
  · exact inCatalog_change order hstory hexact hs h

theorem cataloguing_bears : (Invariant.ofState (State.InCatalog story)).Bears :=
  fun _ _ _ hs => ⟨hs.present, hs.stat, hs.item, hs.currency⟩

/-- Every state that a valid story is played to is in its catalogs. -/
theorem play_inCatalog {language : PatternLanguage} {setup : Setup α} (order : Number.Ordered exact)
    (hvalid : setup.story.Valid language) (hexact : setup.story.ExactStats exact) (draws : Feed α)
    (clock : Feed Int) (moves : List (Move α)) :
    ((setup.newGame none draws clock).play setup moves).2.state.InCatalog setup.story := by
  have hstory := hvalid.orderly
  have hstart : (Invariant.ofState (State.InCatalog setup.story)).Stands (setup.newGame none draws clock) :=
    ⟨initial_inCatalog order hstory setup.config.startNode, by rintro q ⟨⟩⟩
  have hplay := (cataloguing_upheld order hstory hexact).play cataloguing_bears moves _ hstart
  exact hplay.1.state

theorem riddle_inCatalog :
    ((Setup.riddle.newGame none (.always (.int 0)) (.always 0)).play Setup.riddle
      [.start, .solve (.list [.whole 1]) none]).2.state.InCatalog Story.riddle := by
  have hexact : Setup.riddle.story.ExactStats Amount.IsWhole := by
    intro t ht
    cases List.mem_singleton.1 ht
    exact ⟨⟨0, rfl⟩, ⟨5, rfl⟩, ⟨10, rfl⟩⟩
  exact play_inCatalog Amount.ordered Story.riddle_valid hexact _ _ _

end StoryRules
