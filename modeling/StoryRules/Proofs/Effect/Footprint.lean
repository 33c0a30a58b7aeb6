import StoryRules.Proofs.Effect.Keeps
import StoryRules.Proofs.Table

/-!
# The footprint of effects

Effects change only the entries that they name.  Where the game stands, what was visited and the records of
puzzles they leave alone, and so every entry that no effect of the list names, at any depth of its loot tables,
whatever is drawn and also where a fault stops the run.

    State.SameBut (Named effects) scene.state ((applyAll story effects).run scene).2.state
                                                                              (applyAll_footprint)
-/

namespace StoryRules

/-- An entry of a state that effects can write. -/
inductive Slot where
  | item (id : String)
  | currency (id : String)
  | stat (id : String)
  | flag (name : String)
  | timer (name : String)
  | locks (node : String)
  deriving DecidableEq

/-- The entry that an effect names. -/
def Effect.slot? {α : Type} : Effect α → Option Slot
  | .addItem id _ => some (.item id)
  | .removeItem id _ => some (.item id)
  | .addCurrency id _ => some (.currency id)
  | .addStat id _ => some (.stat id)
  | .setFlag name _ => some (.flag name)
  | .setTimer name _ => some (.timer name)
  | .unlockChoice node _ => some (.locks node)
  | .lockChoice node _ => some (.locks node)
  | .log _ | .goto _ | .lootTable _ => none

/-- The entries that effects name, nested ones included. -/
def Effect.Named {α : Type} (effects : List (Effect α)) (slot : Slot) : Prop :=
  ∃ e ∈ walk effects, e.slot? = some slot

namespace State

variable {α : Type}

/-- A state differs from another one at the given entries at most. -/
structure SameBut (named : Slot → Prop) (s t : State α) : Prop where
  currentNode : t.currentNode = s.currentNode
  visited : t.visited = s.visited
  puzzles : t.puzzles = s.puzzles
  item : ∀ id, ¬ named (.item id) → t.inventory.get? id = s.inventory.get? id
  currency : ∀ id, ¬ named (.currency id) → t.currencies.get? id = s.currencies.get? id
  stat : ∀ id, ¬ named (.stat id) → t.stats.get? id = s.stats.get? id
  flag : ∀ name, ¬ named (.flag name) → t.flags.get? name = s.flags.get? name
  timer : ∀ name, ¬ named (.timer name) → t.timers.get? name = s.timers.get? name
  locks : ∀ node, ¬ named (.locks node) → t.lockedChoices.get? node = s.lockedChoices.get? node

namespace SameBut

variable {named : Slot → Prop} {s t u : State α}

theorem refl (s : State α) : SameBut named s s :=
  ⟨rfl, rfl, rfl, fun _ _ => rfl, fun _ _ => rfl, fun _ _ => rfl, fun _ _ => rfl, fun _ _ => rfl,
    fun _ _ => rfl⟩

theorem trans (h : SameBut named s t) (h' : SameBut named t u) : SameBut named s u where
  currentNode := h'.currentNode.trans h.currentNode
  visited := h'.visited.trans h.visited
  puzzles := h'.puzzles.trans h.puzzles
  item id hid := (h'.item id hid).trans (h.item id hid)
  currency id hid := (h'.currency id hid).trans (h.currency id hid)
  stat id hid := (h'.stat id hid).trans (h.stat id hid)
  flag name hname := (h'.flag name hname).trans (h.flag name hname)
  timer name hname := (h'.timer name hname).trans (h.timer name hname)
  locks node hnode := (h'.locks node hnode).trans (h.locks node hnode)

end SameBut

end State

namespace Effect

variable {α : Type} [Number α] {story : Story α} {named : Slot → Prop}

/-- A single effect changes no entry but the one that it names. -/
theorem Change.sameBut {e : Effect α} {s t : State α} (h : Change story s e t)
    (hnamed : ∀ slot, e.slot? = some slot → named slot) : s.SameBut named t := by
  have hne : ∀ {β : Type} (slot : String → Slot) {id key : String} (table : Table β) (b : β),
      e.slot? = some (slot id) → ¬ named (slot key) → (table.put id b).get? key = table.get? key := by
    intro β slot id key table b hslot hkey
    rw [Table.get?_put, if_neg]
    rintro rfl
    exact hkey (hnamed _ hslot)
  have hsame : s.SameBut named s := .refl s
  cases h with
  | added => exact { hsame with item := fun key hkey => hne .item _ _ rfl hkey }
  | removed => exact { hsame with item := fun key hkey => hne .item _ _ rfl hkey }
  | currency => exact { hsame with currency := fun key hkey => hne .currency _ _ rfl hkey }
  | stat => exact { hsame with stat := fun key hkey => hne .stat _ _ rfl hkey }
  | flag => exact { hsame with flag := fun key hkey => hne .flag _ _ rfl hkey }
  | timer => exact { hsame with timer := fun key hkey => hne .timer _ _ rfl hkey }
  | unlocked => exact { hsame with locks := fun key hkey => hne .locks _ _ rfl hkey }
  | locked => exact { hsame with locks := fun key hkey => hne .locks _ _ rfl hkey }

/-- Applying effects changes the entries that they name, and nothing else of a state. -/
theorem applyAll_footprint (story : Story α) (effects : List (Effect α)) (scene : Scene α) :
    scene.state.SameBut (Named effects) ((applyAll story effects).run scene).2.state := by
  let kept (now : Scene α) : Prop := scene.state.SameBut (Named effects) now.state
  have lists : Lists kept fun _ => True :=
    { timed := fun _ _ h => h
      silent := fun _ _ => trivial
      drawn := fun _ _ h => h
      noted := fun _ _ h _ => h
      absorb := fun _ _ _ _ => trivial }
  have hbears : ∀ e ∈ walk effects, Bears story kept (fun _ => True) e := fun e he =>
    { change := fun now s h hchange => h.trans (hchange.sameBut fun slot hslot => ⟨e, he, hslot⟩)
      misses := fun _ _ h _ => h
      jumps := fun _ _ _ _ => trivial }
  exact (lists.applyAll hbears scene (.refl scene.state)).1

end Effect

end StoryRules
