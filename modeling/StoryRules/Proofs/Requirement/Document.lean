import StoryRules.Proofs.Requirement
import StoryRules.Proofs.Schema
import StoryRules.Requirement.Document

/-!
# Requirements read back

Reading the document of an expression gives the expression.  A composite writes one field, and that
field decides its form again; a condition writes none of the fields of composites, so that its tag
is what is looked at.

    read (document r) = .ok r      (read_document)
-/

namespace StoryRules.Requirement

variable {α : Type} [Number α]

theorem documents_eq_map (parts : List (Requirement α)) :
    documents parts = parts.map document := by
  induction parts with
  | nil => rfl
  | cons part rest ih => rw [documents, ih, List.map_cons]

theorem list_readAt {parts : List (Requirement α)} {depth : Nat}
    (h : ∀ part ∈ parts, ∀ depth, part.document.depth ≤ depth →
      readAt depth part.document = .ok part)
    (hdepth : Datum.depthOfList (documents parts) ≤ depth) :
    Reader.list (readAt depth) (.list (documents parts)) = .ok parts := by
  rw [documents_eq_map] at hdepth ⊢
  refine Reader.list_map fun part hpart => h part hpart depth ?_
  exact Nat.le_trans (Datum.depth_le_of_mem (List.mem_map_of_mem hpart)) hdepth

variable [FaithfulNumber α]

theorem readAt_condition (depth : Nat) (c : Condition α) :
    readAt (depth + 1) c.document = .ok (.condition c) := by
  cases c
  all_goals
    simp [Condition.document, Condition.op, readAt, form?, readFields, Condition.readFields,
      Table.has, Table.get?_cons, Reader.optional, Reader.nullable_text, Reader.nullable_whole,
      Reader.nullable_amount, Reader.nullable_truth]

theorem readAt_document (r : Requirement α) : ∀ depth, r.document.depth ≤ depth →
    readAt depth r.document = .ok r := by
  induction r using Requirement.nested with
  | condition c =>
    intro depth hdepth
    cases depth with
    | zero => cases hdepth
    | succ depth => exact readAt_condition depth c
  | not part ih =>
    intro depth hdepth
    simp only [document, Datum.depth, Datum.depthOfFields] at hdepth
    cases depth with
    | zero => cases hdepth
    | succ depth =>
      have hpart := ih depth (by omega)
      simp [document, readAt, form?, readFields, Table.has, Table.get?_cons, Reader.required,
        hpart]
  | allOf parts ih =>
    intro depth hdepth
    simp only [document, Datum.list, Datum.depth, Datum.depthOfFields] at hdepth
    cases depth with
    | zero => cases hdepth
    | succ depth =>
      have hdepth : Datum.depthOfList (documents parts) ≤ depth := by omega
      have hparts := list_readAt ih hdepth
      simp [document, readAt, form?, readFields, Table.has, Table.get?_cons, Reader.optional,
        hparts]
  | anyOf parts ih =>
    intro depth hdepth
    simp only [document, Datum.list, Datum.depth, Datum.depthOfFields] at hdepth
    cases depth with
    | zero => cases hdepth
    | succ depth =>
      have hdepth : Datum.depthOfList (documents parts) ≤ depth := by omega
      have hparts := list_readAt ih hdepth
      simp [document, readAt, form?, readFields, Table.has, Table.get?_cons, Reader.optional,
        hparts]

theorem read_document (r : Requirement α) : read r.document = .ok r :=
  readAt_document r _ (Nat.le_refl _)

end StoryRules.Requirement
