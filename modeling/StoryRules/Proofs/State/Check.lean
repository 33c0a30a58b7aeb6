import StoryRules.Proofs.Step
import StoryRules.Proofs.Story
import StoryRules.State.Check

/-!
# Complaints about currencies

The check of a state complains of each kind of problem in words of its own.  Those for a currency that
is not declared say so: it is held, and the story does not have it.

    undefinedCurrency id ∈ s.check story → story.hasCurrency id = false      (held_of_undefinedCurrency)
-/

namespace StoryRules

variable {α : Type} [Number α] {s : State α} {story : Story α} {id : String}

/-- How the check of a state tells of a currency that is not declared. -/
def undefinedCurrency (id : String) : String := "State contains undefined currency: " ++ id

theorem toList_undefinedCurrency (id : String) : (undefinedCurrency id).toList =
    "State contains undefined currency: ".toList ++ id.toList := by
  unfold undefinedCurrency
  exact String.toList_append

theorem undefinedCurrency_injective {held : String}
    (h : undefinedCurrency held = undefinedCurrency id) : held = id := by
  have h := congrArg String.toList h
  rw [toList_undefinedCurrency, toList_undefinedCurrency, List.append_cancel_left_eq,
    String.toList_inj] at h
  exact h

omit [Number α] in
/-- Other complaints begin with other words. -/
theorem undefinedCurrency_ne {text : String}
    (h : ¬ "State contains undefined currency: ".toList <+: text.toList) :
    undefinedCurrency id ≠ text := by
  rintro rfl
  exact h (toList_undefinedCurrency id ▸ List.prefix_append _ _)

theorem State.itemProblems_other {entry : String × Int} :
    .ok (undefinedCurrency id) ∉ State.itemProblems story entry := by
  intro h
  unfold State.itemProblems at h
  rcases List.mem_append.1 h with h | h
  · split at h
    · exact undefinedCurrency_ne (by simp) (Except.ok.inj (List.mem_singleton.1 h))
    · cases h
  · split at h
    · obtain ⟨quantity, -, h⟩ := map_eq_ok.1 (List.mem_singleton.1 h).symm
      exact undefinedCurrency_ne (by simp) h.symm
    · cases h

theorem State.statProblems_other {entry : String × α} :
    .ok (undefinedCurrency id) ∉ State.statProblems story entry := by
  intro h
  unfold State.statProblems at h
  split at h
  · exact undefinedCurrency_ne (by simp) (Except.ok.inj (List.mem_singleton.1 h))
  · split at h
    · obtain ⟨value, -, h⟩ := bind_eq_ok.1 (List.mem_singleton.1 h).symm
      obtain ⟨low, -, h⟩ := bind_eq_ok.1 h
      obtain ⟨high, -, h⟩ := bind_eq_ok.1 h
      exact undefinedCurrency_ne (by simp) (Except.ok.inj h).symm
    · cases h

theorem State.currencyProblems_undefined {entry : String × α}
    (h : .ok (undefinedCurrency id) ∈ State.currencyProblems story entry) :
    entry.1 = id ∧ story.hasCurrency id = false := by
  unfold State.currencyProblems at h
  rcases List.mem_append.1 h with h | h
  · split at h
    · next hnone =>
      have hid : entry.1 = id :=
        (undefinedCurrency_injective (Except.ok.inj (List.mem_singleton.1 h))).symm
      refine ⟨hid, ?_⟩
      rw [← hid, Story.hasCurrency, Option.isSome_eq_false_iff]
      exact hnone
    · cases h
  · split at h
    · obtain ⟨amount, -, h⟩ := map_eq_ok.1 (List.mem_singleton.1 h).symm
      exact absurd h.symm (undefinedCurrency_ne (by simp))
    · cases h

/-- Only a currency that is held and not declared is complained of like that. -/
theorem State.held_of_undefinedCurrency (h : undefinedCurrency id ∈ s.check story) :
    (∃ entry ∈ s.currencies, entry.1 = id) ∧ story.hasCurrency id = false := by
  obtain ⟨problem, h, hproblem⟩ := List.mem_filterMap.1 h
  obtain rfl : problem = .ok (undefinedCurrency id) := by
    cases problem with
    | error fault => cases hproblem
    | ok text => exact congrArg Except.ok (Option.some.inj hproblem)
  unfold State.problems at h
  rcases List.mem_append.1 h with h | h
  · rcases List.mem_append.1 h with h | h
    · rcases List.mem_append.1 h with h | h
      · split at h
        · exact absurd (Except.ok.inj (List.mem_singleton.1 h)) (undefinedCurrency_ne (by simp))
        · cases h
      · obtain ⟨entry, -, h⟩ := List.mem_flatMap.1 h
        exact absurd h State.itemProblems_other
    · obtain ⟨entry, hentry, h⟩ := List.mem_flatMap.1 h
      obtain ⟨hid, hnone⟩ := State.currencyProblems_undefined h
      exact ⟨⟨entry, hentry, hid⟩, hnone⟩
  · obtain ⟨entry, -, h⟩ := List.mem_flatMap.1 h
    exact absurd h State.statProblems_other

end StoryRules
