import StoryRules.Requirement

/-!
# Expressions inside expressions

`Requirement.nested` is induction over the parts of an expression.
-/

namespace StoryRules.Requirement

variable {α : Type}

theorem mem_conditionsOfAll {c : Condition α} {parts : List (Requirement α)} :
    c ∈ conditionsOfAll parts ↔ ∃ part ∈ parts, c ∈ part.conditions := by
  induction parts with
  | nil => simp [conditionsOfAll]
  | cons part rest ih => simp [conditionsOfAll, ih]

/-- Induction over nested expressions: what holds of all parts holds of the whole. -/
theorem nested {motive : Requirement α → Prop} (condition : ∀ c, motive (.condition c))
    (not : ∀ part, motive part → motive (.not part))
    (allOf : ∀ parts, (∀ part ∈ parts, motive part) → motive (.allOf parts))
    (anyOf : ∀ parts, (∀ part ∈ parts, motive part) → motive (.anyOf parts))
    (r : Requirement α) : motive r := by
  refine Requirement.rec (motive_1 := motive) (motive_2 := fun parts => ∀ part ∈ parts, motive part)
    allOf anyOf not condition ?_ ?_ r
  · simp
  · intro part rest hpart hrest
    simpa using ⟨hpart, hrest⟩

end StoryRules.Requirement
