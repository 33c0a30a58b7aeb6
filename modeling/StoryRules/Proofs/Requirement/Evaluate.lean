import StoryRules.Requirement.Evaluate

/-!
# What expressions look at

An expression looks at a state through its conditions only: where they say the same of two states, so does
the expression, with the same warnings.

    (∀ c ∈ r.conditions, c.test s = c.test t) → r.evaluate s = r.evaluate t      (evaluate_congr)
-/

namespace StoryRules.Requirement

variable {α : Type} [Number α] {s t : State α}

mutual

theorem evaluate_congr {r : Requirement α} (h : ∀ c ∈ r.conditions, c.test s = c.test t) :
    r.evaluate s = r.evaluate t := by
  cases r with
  | allOf parts => exact evaluateAll_congr h
  | anyOf parts => exact evaluateAny_congr h
  | not part =>
    unfold evaluate
    rw [evaluate_congr (r := part) h]
  | condition c => exact h c List.mem_cons_self

theorem evaluateAll_congr {parts : List (Requirement α)}
    (h : ∀ c ∈ conditionsOfAll parts, c.test s = c.test t) : evaluateAll s parts = evaluateAll t parts := by
  cases parts with
  | nil => rfl
  | cons part rest =>
    obtain ⟨hpart, hrest⟩ := List.forall_mem_append.1 h
    unfold evaluateAll
    rw [evaluate_congr hpart, evaluateAll_congr hrest]

theorem evaluateAny_congr {parts : List (Requirement α)}
    (h : ∀ c ∈ conditionsOfAll parts, c.test s = c.test t) : evaluateAny s parts = evaluateAny t parts := by
  cases parts with
  | nil => rfl
  | cons part rest =>
    obtain ⟨hpart, hrest⟩ := List.forall_mem_append.1 h
    unfold evaluateAny
    rw [evaluate_congr hpart, evaluateAny_congr hrest]

end

theorem evaluate?_congr {r : Option (Requirement α)} (h : ∀ c ∈ conditions? r, c.test s = c.test t) :
    evaluate? s r = evaluate? t r := by
  cases r with
  | none => rfl
  | some r => exact evaluate_congr h

end StoryRules.Requirement
