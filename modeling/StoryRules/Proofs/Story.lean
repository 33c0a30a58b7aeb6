import StoryRules.Validation.References

/-!
# Nodes of a story

A node that is looked up is one of the story's and has the id that it was looked up by.
-/

namespace StoryRules

variable {α : Type} {s : Story α} {id : String} {n : Node α}

theorem Story.id_of_node? (h : s.node? id = some n) : n.id = id := by
  simpa using List.find?_some h

theorem Story.mem_nodes_of_node? (h : s.node? id = some n) : n ∈ s.nodes :=
  List.mem_of_find?_eq_some h

theorem Story.hasNode_of_mem (h : n ∈ s.nodes) : s.hasNode n.id = true := by
  unfold Story.hasNode Story.node?
  rw [List.find?_isSome]
  exact ⟨n, h, by simp⟩

theorem Story.node?_ne_none (h : s.hasNode id = true) : s.node? id ≠ none := by
  intro hnone
  unfold Story.hasNode at h
  rw [hnone] at h
  cases h

end StoryRules
