import StoryRules.Proofs.Effect.Keeps
import StoryRules.Proofs.Table

/-!
# Cells of a state

What effects write falls into cells: what is held of an item, a currency or a stat, a flag, a timer, and whether
a choice is locked.  A single effect writes the one cell that it names, and every other one reads as before.  The
choices of a node are cells of their own, although their locks are kept in one list.

    Change story s e t → ∃ c v, e.cell? = some c ∧ s.Writes t c v      (Change.writes)
-/

namespace StoryRules

/-- A place in a state that a lookup reads. -/
inductive Cell where
  | item (id : String)
  | currency (id : String)
  | stat (id : String)
  | flag (name : String)
  | timer (name : String)
  | lock (node : String) (index : Int)
  deriving DecidableEq

/-- What a lookup finds. -/
inductive Reading (α : Type) where
  | whole (n : Option Int)
  | amount (a : Option α)
  | truth (b : Option Bool)

/-- The cell that an effect names. -/
def Effect.cell? {α : Type} : Effect α → Option Cell
  | .addItem id _ => some (.item id)
  | .removeItem id _ => some (.item id)
  | .addCurrency id _ => some (.currency id)
  | .addStat id _ => some (.stat id)
  | .setFlag name _ => some (.flag name)
  | .setTimer name _ => some (.timer name)
  | .unlockChoice node index => some (.lock node index)
  | .lockChoice node index => some (.lock node index)
  | .log _ | .goto _ | .lootTable _ => none

namespace State

variable {α : Type}

/-- Looks up a cell. -/
def read (s : State α) : Cell → Reading α
  | .item id => .whole (s.inventory.get? id)
  | .currency id => .amount (s.currencies.get? id)
  | .stat id => .amount (s.stats.get? id)
  | .flag name => .truth (s.flags.get? name)
  | .timer name => .whole (s.timers.get? name)
  | .lock node index => .truth (some (s.isLocked node index))

/-- Between two states one cell was written. -/
def Writes (s t : State α) (c : Cell) (v : Reading α) : Prop :=
  ∀ cell, t.read cell = if cell = c then v else s.read cell

/-! ## Locks -/

/-- The state where the locks of a node are as listed. -/
def setLocks (s : State α) (node : String) (locks : List Int) : State α :=
  { s with lockedChoices := s.lockedChoices.put node locks }

variable (s : State α)

theorem locks_setLocks (node key : String) (locks : List Int) :
    (s.setLocks node locks).locks key = if node = key then locks else s.locks key := by
  unfold State.locks setLocks
  rw [Table.get?_put]
  split <;> rfl

theorem isLocked_unlock (node key : String) (index i : Int) :
    (s.setLocks node ((s.locks node).filter (· ≠ index))).isLocked key i =
      if node = key ∧ index = i then false else s.isLocked key i := by
  unfold isLocked
  rw [locks_setLocks]
  by_cases hnode : node = key
  · subst hnode
    by_cases hindex : index = i <;> simp [hindex, eq_comm]
  · simp [hnode]

theorem isLocked_lock (node key : String) (index i : Int) :
    (s.setLocks node (if (s.locks node).contains index then s.locks node else s.locks node ++ [index])).isLocked
      key i = if node = key ∧ index = i then true else s.isLocked key i := by
  unfold isLocked
  rw [locks_setLocks]
  by_cases hnode : node = key
  · subst hnode
    rw [if_pos rfl]
    by_cases hindex : index = i
    · subst hindex
      rw [if_pos (⟨rfl, rfl⟩ : node = node ∧ index = index)]
      split
      · next hlocked => exact hlocked
      · simp
    · have hne : i ≠ index := fun heq => hindex heq.symm
      rw [if_neg (mt And.right hindex)]
      split
      · rfl
      · simp [hne]
  · simp [hnode]

/-! ## Writing a cell -/

variable {s}

theorem Writes.of {t : State α} {c : Cell} {v : Reading α} (hwritten : t.read c = v)
    (hkept : ∀ cell, cell ≠ c → t.read cell = s.read cell) : s.Writes t c v := by
  intro cell
  by_cases h : cell = c
  · rw [if_pos h, h, hwritten]
  · rw [if_neg h, hkept cell h]

/-- A cell is written where the entry of a table is put that it reads, and all else reads as before. -/
theorem Writes.put {β : Type} {t : State α} (cell : String → Cell) (reading : Option β → Reading α)
    {table : Table β} {id : String} {b : β}
    (hbefore : ∀ key, s.read (cell key) = reading (table.get? key))
    (hafter : ∀ key, t.read (cell key) = reading ((table.put id b).get? key))
    (hother : ∀ c, (∀ key, c ≠ cell key) → t.read c = s.read c) :
    s.Writes t (cell id) (reading (some b)) := by
  refine .of ?_ fun c hne => ?_
  · rw [hafter, Table.get?_put, if_pos rfl]
  · by_cases hkey : ∃ key, c = cell key
    · obtain ⟨key, rfl⟩ := hkey
      have hid : id ≠ key := fun heq => hne (congrArg cell heq.symm)
      rw [hafter, hbefore, Table.get?_put, if_neg hid]
    · exact hother c fun key hc => hkey ⟨key, hc⟩

variable (s)

theorem writes_item (id : String) (n : Int) :
    s.Writes { s with inventory := s.inventory.put id n } (.item id) (.whole (some n)) := by
  refine .put .item .whole (fun _ => rfl) (fun _ => rfl) fun c hc => ?_
  cases c with
  | item key => exact absurd rfl (hc key)
  | _ => rfl

theorem writes_currency (id : String) (a : α) :
    s.Writes { s with currencies := s.currencies.put id a } (.currency id) (.amount (some a)) := by
  refine .put .currency .amount (fun _ => rfl) (fun _ => rfl) fun c hc => ?_
  cases c with
  | currency key => exact absurd rfl (hc key)
  | _ => rfl

theorem writes_stat (id : String) (a : α) :
    s.Writes { s with stats := s.stats.put id a } (.stat id) (.amount (some a)) := by
  refine .put .stat .amount (fun _ => rfl) (fun _ => rfl) fun c hc => ?_
  cases c with
  | stat key => exact absurd rfl (hc key)
  | _ => rfl

theorem writes_flag (name : String) (b : Bool) :
    s.Writes { s with flags := s.flags.put name b } (.flag name) (.truth (some b)) := by
  refine .put .flag .truth (fun _ => rfl) (fun _ => rfl) fun c hc => ?_
  cases c with
  | flag key => exact absurd rfl (hc key)
  | _ => rfl

theorem writes_timer (name : String) (n : Int) :
    s.Writes { s with timers := s.timers.put name n } (.timer name) (.whole (some n)) := by
  refine .put .timer .whole (fun _ => rfl) (fun _ => rfl) fun c hc => ?_
  cases c with
  | timer key => exact absurd rfl (hc key)
  | _ => rfl

/-- A lock is written if one lock of a node reads as given and all others as before. -/
theorem writes_locks {node : String} {index : Int} {locks : List Int} {b : Bool}
    (h : ∀ key i, (s.setLocks node locks).isLocked key i =
      if node = key ∧ index = i then b else s.isLocked key i) :
    s.Writes (s.setLocks node locks) (.lock node index) (.truth (some b)) := by
  refine .of (congrArg (Reading.truth ∘ some) ?_) fun cell hne => ?_
  · rw [h, if_pos ⟨rfl, rfl⟩]
  · cases cell with
    | lock key i =>
      refine congrArg (Reading.truth ∘ some) ((h key i).trans (if_neg ?_))
      rintro ⟨rfl, rfl⟩
      exact hne rfl
    | _ => rfl

theorem writes_unlock (node : String) (index : Int) :
    s.Writes (s.setLocks node ((s.locks node).filter (· ≠ index))) (.lock node index) (.truth (some false)) :=
  s.writes_locks fun key i => s.isLocked_unlock node key index i

theorem writes_lock (node : String) (index : Int) :
    s.Writes
      (s.setLocks node (if (s.locks node).contains index then s.locks node else s.locks node ++ [index]))
      (.lock node index) (.truth (some true)) :=
  s.writes_locks fun key i => s.isLocked_lock node key index i

end State

namespace Effect

variable {α : Type} [Number α] {story : Story α}

/-- A single effect writes the cell that it names. -/
theorem Change.writes {e : Effect α} {s t : State α} (h : Change story s e t) :
    ∃ c v, e.cell? = some c ∧ s.Writes t c v := by
  cases h with
  | added => exact ⟨_, _, rfl, s.writes_item _ _⟩
  | removed => exact ⟨_, _, rfl, s.writes_item _ _⟩
  | currency => exact ⟨_, _, rfl, s.writes_currency _ _⟩
  | stat => exact ⟨_, _, rfl, s.writes_stat _ _⟩
  | flag => exact ⟨_, _, rfl, s.writes_flag _ _⟩
  | timer => exact ⟨_, _, rfl, s.writes_timer _ _⟩
  | unlocked => exact ⟨_, _, rfl, s.writes_unlock _ _⟩
  | locked => exact ⟨_, _, rfl, s.writes_lock _ _⟩

/-- A cell that no effect of a list names, at any depth of its loot tables, reads as before. -/
theorem applyAll_read (story : Story α) {effects : List (Effect α)} {c : Cell}
    (h : ∀ e ∈ walk effects, e.cell? ≠ some c) (scene : Scene α) :
    ((applyAll story effects).run scene).2.state.read c = scene.state.read c := by
  let kept (now : Scene α) : Prop := now.state.read c = scene.state.read c
  have lists : Lists kept fun _ => True :=
    { timed := fun _ _ h => h
      silent := fun _ _ => trivial
      drawn := fun _ _ h => h
      noted := fun _ _ h _ => h
      absorb := fun _ _ _ _ => trivial }
  have hbears : ∀ e ∈ walk effects, Bears story kept (fun _ => True) e := fun e he =>
    { change := fun now s hnow hchange => by
        obtain ⟨cell, v, hcell, hwrites⟩ := hchange.writes
        have hne : c ≠ cell := fun heq => h e he (heq ▸ hcell)
        exact ((hwrites c).trans (if_neg hne)).trans hnow
      misses := fun _ _ h _ => h
      jumps := fun _ _ _ _ => trivial }
  exact (lists.applyAll hbears scene rfl).1

end Effect

end StoryRules
