import StoryRules.Proofs.Table
import StoryRules.State

/-!
# Records of progress

Writing the record of a puzzle changes that record only, and writing it again leaves nothing of what was
written before.
-/

namespace StoryRules

variable {α : Type}

namespace State

variable (s : State α) (puzzle id : String) (p q : Progress α)

@[simp] theorem progress_setProgress_self : (s.setProgress puzzle p).progress puzzle = p := by
  simp [setProgress, progress, Table.get?_put]

theorem progress_setProgress_of_ne {puzzle id : String} (h : puzzle ≠ id) :
    (s.setProgress puzzle p).progress id = s.progress id := by
  simp [setProgress, progress, Table.get?_put, h]

@[simp] theorem setProgress_setProgress :
    (s.setProgress puzzle p).setProgress puzzle q = s.setProgress puzzle q := by
  simp [setProgress, Table.put_put]

@[simp] theorem progress_openProgress : (s.openProgress puzzle).progress id = s.progress id := by
  unfold openProgress
  split
  · rfl
  · next h =>
    unfold progress
    rw [Table.get?_put]
    by_cases hid : puzzle = id
    · have hnone : s.puzzles.get? id = none := by
        rw [Table.has_eq_isSome, hid] at h
        simpa using h
      rw [if_pos hid, hnone]
      rfl
    · rw [if_neg hid]

/-- A puzzle that was tried has a record. -/
theorem openProgress_of_attempts {puzzle : String} (h : 0 < (s.progress puzzle).attempts) :
    s.openProgress puzzle = s := by
  unfold openProgress
  split
  · rfl
  · next hnone =>
    rw [Table.has_eq_isSome, Bool.not_eq_true, Option.isSome_eq_false_iff,
      Option.isNone_iff_eq_none] at hnone
    unfold progress at h
    rw [hnone] at h
    exact absurd h (Int.lt_irrefl 0)

@[simp] theorem currentNode_openProgress :
    (s.openProgress puzzle).currentNode = s.currentNode := by
  unfold openProgress
  split <;> rfl

@[simp] theorem setProgress_openProgress :
    (s.openProgress puzzle).setProgress puzzle p = s.setProgress puzzle p := by
  unfold openProgress
  split
  · rfl
  · simp [setProgress, Table.put_put]

/-- A state is another one, but that a puzzle may have got a record. -/
def Opened (s after : State α) : Prop := after = s ∨ ∃ id, after = s.openProgress id

@[simp] theorem puzzles_visit (node : String) : (s.visit node).puzzles = s.puzzles := by
  unfold visit
  split <;> rfl

@[simp] theorem currencies_visit (node : String) :
    (s.visit node).currencies = s.currencies := by
  unfold visit
  split <;> rfl

@[simp] theorem lockedChoices_visit (node : String) :
    (s.visit node).lockedChoices = s.lockedChoices := by
  unfold visit
  split <;> rfl

theorem mem_visited_visit {node id : String} :
    id ∈ (s.visit node).visited ↔ id = node ∨ id ∈ s.visited := by
  unfold visit hasVisited
  split
  · next hvisited =>
    rw [List.contains_iff_mem] at hvisited
    exact ⟨.inr, fun h => h.elim (fun heq => heq ▸ hvisited) fun h => h⟩
  · rw [List.mem_append, List.mem_singleton, or_comm]

theorem nodup_visited_visit {node : String} (h : s.visited.Nodup) : (s.visit node).visited.Nodup := by
  unfold visit hasVisited
  split
  · exact h
  · next hnew =>
    rw [List.contains_eq_mem, decide_eq_true_eq] at hnew
    refine List.nodup_append.2 ⟨h, List.pairwise_singleton _ node, fun a ha b hb => ?_⟩
    rintro rfl
    exact hnew (List.mem_singleton.1 hb ▸ ha)

end State

end StoryRules
