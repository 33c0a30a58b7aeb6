import StoryRules.Engine.Choices
import StoryRules.Proofs.Requirement.Evaluate

/-!
# What choices depend on

Whether a choice can be taken is decided by its locks, by the puzzle that gates it and by what the
conditions of its requirement say, and by nothing else in a state.
-/

namespace StoryRules

variable {α : Type} {n : Node α}

theorem Play.mem_of_choiceAt? {index : Int} {c : Choice α} (h : choiceAt? n index = some c) :
    c ∈ n.choices := by
  unfold choiceAt? at h
  split at h
  · cases h
  · exact List.mem_of_getElem? h

variable [Number α] {s t : State α}

theorem Node.availability_congr {index : Nat} {c : Choice α}
    (hlocks : s.isLocked n.id index = t.isLocked n.id index) (hgate : n.isGated s = n.isGated t)
    (h : ∀ condition ∈ Requirement.conditions? c.requirement, condition.test s = condition.test t) :
    n.availability s index c = n.availability t index c := by
  unfold availability Availability.required
  rw [hlocks, hgate, Requirement.evaluate?_congr h]

theorem Node.availabilities_congr
    (h : ∀ index, ∀ c ∈ n.choices, n.availability s index c = n.availability t index c) :
    n.availabilities s = n.availabilities t := by
  have hfrom : ∀ choices index, (∀ c ∈ choices, c ∈ n.choices) →
      n.availabilitiesFrom s index choices = n.availabilitiesFrom t index choices := by
    intro choices
    induction choices with
    | nil => exact fun _ _ => rfl
    | cons c rest ih =>
      intro index hmem
      rw [availabilitiesFrom, availabilitiesFrom, h index c (hmem c List.mem_cons_self),
        ih (index + 1) fun c hc => hmem c (List.mem_cons_of_mem _ hc)]
  exact hfrom n.choices 0 fun _ hc => hc

end StoryRules
