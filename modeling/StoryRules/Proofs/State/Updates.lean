import Mathlib.Data.List.Dedup
import Mathlib.Data.List.Sort
import Mathlib.Data.String.Basic
import StoryRules.Proofs.State.Snapshot
import StoryRules.Proofs.Table.Overlay

/-!
# Updates of states

Updates name some fields of a state.  They are laid over its tables, united with its visited nodes, and take the place
of its current node.  Updates can be laid over one another in the same way beforehand.

    (s.updated U).updated V = s.updated (U.override V)                                            (updated_updated)
-/

namespace StoryRules

/-! ## Nodes in order -/

namespace State

/-- The ids of two lists, each once and in order. -/
def unite (old new : List String) : List String := (old ++ new).dedup.mergeSort fun a b => !(b < a)

theorem mem_unite {old new : List String} {id : String} : id ∈ unite old new ↔ id ∈ old ∨ id ∈ new := by
  rw [unite, List.mem_mergeSort, List.mem_dedup, List.mem_append]

theorem unite_nodup (old new : List String) : (unite old new).Nodup :=
  (List.mergeSort_perm _ _).nodup_iff.2 (List.nodup_dedup _)

/-- Sorting ids without repetitions forgets the order in which they stood. -/
theorem mergeSort_congr {ids ids' : List String} (h : ids.Nodup) (h' : ids'.Nodup) (hmem : ∀ id, id ∈ ids ↔ id ∈ ids') :
    (ids.mergeSort fun a b => !(b < a)) = ids'.mergeSort fun a b => !(b < a) := by
  have hle : (fun a b : String => !decide (b < a)) = fun a b => decide (a ≤ b) := by
    funext a b
    rw [← decide_not, decide_eq_decide, not_lt]
  have hperm : ids.Perm ids' := (List.perm_ext_iff_of_nodup h h').2 hmem
  rw [hle]
  exact ((List.mergeSort_perm _ _).trans (hperm.trans (List.mergeSort_perm _ _).symm)).eq_of_pairwise'
    (List.pairwise_mergeSort' (· ≤ ·) ids) (List.pairwise_mergeSort' (· ≤ ·) ids')

theorem mergeSort_eq_unite {old new ids : List String} (h : ids.Nodup) (hmem : ∀ id, id ∈ ids ↔ id ∈ old ∨ id ∈ new) :
    (ids.mergeSort fun a b => !(b < a)) = unite old new :=
  mergeSort_congr h (List.nodup_dedup _) fun id => by rw [hmem, List.mem_dedup, List.mem_append]

/-- A union depends on nothing but what is in it. -/
theorem unite_congr {old new old' new' : List String}
    (h : ∀ id, id ∈ old ∨ id ∈ new ↔ id ∈ old' ∨ id ∈ new') : unite old new = unite old' new' :=
  mergeSort_eq_unite (List.nodup_dedup _) fun id => by rw [List.mem_dedup, List.mem_append, h]

end State

/-! ## Updates -/

/-- What updates say of each field of a state. -/
structure Updates (α : Type) where
  currentNode : Option String := none
  visited : Option (List String) := none
  inventory : Table Int := []
  currencies : Table α := []
  stats : Table α := []
  flags : Table Bool := []
  puzzles : Table (Progress α) := []
  timers : Table Int := []
  lockedChoices : Table (List Int) := []

variable {α : Type}

/-- In no table of the updates is a key twice. -/
structure Updates.Proper (U : Updates α) : Prop where
  inventory : U.inventory.keys.Nodup
  currencies : U.currencies.keys.Nodup
  stats : U.stats.keys.Nodup
  flags : U.flags.keys.Nodup
  puzzles : U.puzzles.keys.Nodup
  timers : U.timers.keys.Nodup
  lockedChoices : U.lockedChoices.keys.Nodup

/-- The later updates over the earlier ones. -/
def Updates.override (U V : Updates α) : Updates α where
  currentNode := V.currentNode.or U.currentNode
  visited := U.visited.merge (· ++ ·) V.visited
  inventory := U.inventory.overlay V.inventory
  currencies := U.currencies.overlay V.currencies
  stats := U.stats.overlay V.stats
  flags := U.flags.overlay V.flags
  puzzles := U.puzzles.overlay V.puzzles
  timers := U.timers.overlay V.timers
  lockedChoices := U.lockedChoices.overlay V.lockedChoices

theorem Updates.Proper.override {U V : Updates α} (hU : U.Proper) : (U.override V).Proper where
  inventory := Table.keys_overlay_nodup hU.inventory _
  currencies := Table.keys_overlay_nodup hU.currencies _
  stats := Table.keys_overlay_nodup hU.stats _
  flags := Table.keys_overlay_nodup hU.flags _
  puzzles := Table.keys_overlay_nodup hU.puzzles _
  timers := Table.keys_overlay_nodup hU.timers _
  lockedChoices := Table.keys_overlay_nodup hU.lockedChoices _

namespace State

/-- A state with updates. -/
def updated (s : State α) (U : Updates α) : State α where
  currentNode := U.currentNode.getD s.currentNode
  visited := U.visited.elim s.visited (unite s.visited)
  inventory := s.inventory.overlay U.inventory
  currencies := s.currencies.overlay U.currencies
  stats := s.stats.overlay U.stats
  flags := s.flags.overlay U.flags
  puzzles := s.puzzles.overlay U.puzzles
  timers := s.timers.overlay U.timers
  lockedChoices := s.lockedChoices.overlay U.lockedChoices

theorem updated_nothing (s : State α) : s.updated {} = s := rfl

/-- Updates one after the other are the later ones over the earlier ones. -/
theorem updated_updated (s : State α) {U V : Updates α} (hU : U.Proper) :
    (s.updated U).updated V = s.updated (U.override V) := by
  have hcurrent : V.currentNode.getD (U.currentNode.getD s.currentNode) =
      (V.currentNode.or U.currentNode).getD s.currentNode := by
    cases V.currentNode <;> rfl
  have hvisited : V.visited.elim (U.visited.elim s.visited (unite s.visited))
      (unite (U.visited.elim s.visited (unite s.visited))) =
      (U.visited.merge (· ++ ·) V.visited).elim s.visited (unite s.visited) := by
    cases U.visited with
    | none => cases V.visited <;> rfl
    | some old =>
      cases V.visited with
      | none => rfl
      | some new =>
        refine unite_congr fun id => ?_
        rw [Option.elim_some, mem_unite, List.mem_append, or_assoc]
  unfold updated Updates.override
  simp only [hcurrent, hvisited, Table.overlay_overlay hU.inventory, Table.overlay_overlay hU.currencies,
    Table.overlay_overlay hU.stats, Table.overlay_overlay hU.flags, Table.overlay_overlay hU.puzzles,
    Table.overlay_overlay hU.timers, Table.overlay_overlay hU.lockedChoices]

/-- Updates say nothing new the second time. -/
theorem updated_twice (s : State α) {U : Updates α} (hU : U.Proper) : (s.updated U).updated U = s.updated U := by
  have hvisited : (U.visited.merge (· ++ ·) U.visited).elim s.visited (unite s.visited) =
      U.visited.elim s.visited (unite s.visited) := by
    cases U.visited with
    | none => rfl
    | some ids =>
      refine unite_congr fun id => ?_
      rw [List.mem_append, or_self]
  rw [updated_updated s hU]
  unfold updated Updates.override
  simp only [hvisited, Option.or_self, Table.overlay_self hU.inventory, Table.overlay_self hU.currencies,
    Table.overlay_self hU.stats, Table.overlay_self hU.flags, Table.overlay_self hU.puzzles,
    Table.overlay_self hU.timers, Table.overlay_self hU.lockedChoices]

/-- What a state with updates says of each field: what the updates say, and where they are silent what it said
before. -/
structure Overrides (s : State α) (U : Updates α) (a : State α) : Prop where
  currentNode : a.currentNode = U.currentNode.getD s.currentNode
  visited : ∀ id, id ∈ a.visited ↔ id ∈ s.visited ∨ ∃ ids, U.visited = some ids ∧ id ∈ ids
  inventory : ∀ key, a.inventory.get? key = (U.inventory.get? key).or (s.inventory.get? key)
  currencies : ∀ key, a.currencies.get? key = (U.currencies.get? key).or (s.currencies.get? key)
  stats : ∀ key, a.stats.get? key = (U.stats.get? key).or (s.stats.get? key)
  flags : ∀ key, a.flags.get? key = (U.flags.get? key).or (s.flags.get? key)
  puzzles : ∀ key, a.puzzles.get? key = (U.puzzles.get? key).or (s.puzzles.get? key)
  timers : ∀ key, a.timers.get? key = (U.timers.get? key).or (s.timers.get? key)
  lockedChoices : ∀ key, a.lockedChoices.get? key = (U.lockedChoices.get? key).or (s.lockedChoices.get? key)

theorem updated_overrides (s : State α) {U : Updates α} (hU : U.Proper) : s.Overrides U (s.updated U) where
  currentNode := rfl
  visited id := by
    unfold updated
    cases U.visited with
    | none => simp
    | some ids => simp [mem_unite]
  inventory := Table.get?_overlay_or hU.inventory _
  currencies := Table.get?_overlay_or hU.currencies _
  stats := Table.get?_overlay_or hU.stats _
  flags := Table.get?_overlay_or hU.flags _
  puzzles := Table.get?_overlay_or hU.puzzles _
  timers := Table.get?_overlay_or hU.timers _
  lockedChoices := Table.get?_overlay_or hU.lockedChoices _

theorem Savable.updated [Number α] {s : State α} {U : Updates α} (h : s.Savable)
    (hU : ∀ entry ∈ U.puzzles, entry.2.Savable) : (s.updated U).Savable where
  visited := by
    unfold State.updated
    cases U.visited with
    | none => exact h.visited
    | some ids => exact unite_nodup _ _
  puzzles entry hentry := (Table.mem_overlay hentry).elim (hU entry) (h.puzzles entry)

end State

end StoryRules
