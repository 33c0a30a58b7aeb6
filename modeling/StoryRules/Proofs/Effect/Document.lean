import StoryRules.Effect.Document
import StoryRules.Proofs.Effect.Walk
import StoryRules.Proofs.Schema

/-!
# Effects read back

Reading the document of an effect gives the effect, however deep its loot tables are nested.

    read (document e) = .ok e      (read_document)
-/

namespace StoryRules

variable {α : Type}

namespace Effect

variable [Number α]

theorem documents_eq_map (effects : List (Effect α)) : documents effects = effects.map document := by
  induction effects with
  | nil => rfl
  | cons e rest ih => rw [documents, ih, List.map_cons]

/-- The document of one entry of a loot table. -/
def entryDocument (entry : LootEntry α) : Datum α :=
  .map [("weight", .num entry.weight), ("effects", .list (documents entry.item))]

theorem entryDocuments_eq_map (table : List (LootEntry α)) :
    entryDocuments table = table.map entryDocument := by
  induction table with
  | nil => rfl
  | cons entry rest ih =>
    rw [entryDocuments, ih, List.map_cons]
    rfl

theorem depth_document_of_mem {table : List (LootEntry α)} {entry : LootEntry α} {e : Effect α}
    (hentry : entry ∈ table) (he : e ∈ entry.item) :
    e.document.depth + 1 ≤ (lootTable table).document.depth := by
  have heffect : e.document.depth ≤ Datum.depthOfList (documents entry.item) := by
    rw [documents_eq_map]
    exact Datum.depth_le_of_mem (List.mem_map_of_mem he)
  have htable : (entryDocument entry).depth ≤ Datum.depthOfList (entryDocuments table) := by
    rw [entryDocuments_eq_map]
    exact Datum.depth_le_of_mem (List.mem_map_of_mem hentry)
  simp only [entryDocument, Datum.list, Datum.depth, Datum.depthOfFields] at htable
  simp only [document, tagged, Datum.list, Datum.depth, Datum.depthOfFields]
  omega

variable [FaithfulNumber α]

omit [FaithfulNumber α] in
theorem readEntry_document {nested : Reader α (Effect α)} {entry : LootEntry α}
    (h : ∀ e ∈ entry.item, nested e.document = .ok e) :
    readEntry nested (entryDocument entry) = .ok entry := by
  have heffects : Reader.list nested (.list (documents entry.item)) = .ok entry.item := by
    rw [documents_eq_map]
    exact Reader.list_map h
  simp [readEntry, entryDocument, Reader.object, Reader.required, Reader.optional,
    Table.get?_cons, heffects]

theorem readAt_document (e : Effect α) : ∀ depth, e.document.depth ≤ depth →
    readAt depth e.document = .ok e := by
  induction e using Effect.nested with
  | simple e hsimple =>
    intro depth hdepth
    cases depth with
    | zero => cases e <;> simp [document, tagged, Datum.depth] at hdepth
    | succ depth =>
      cases e with
      | lootTable table => exact absurd rfl (hsimple table)
      | _ =>
        simp [document, tagged, readAt, readFields, Reader.required, Reader.optional,
          Table.get?_cons]
  | loot table ih =>
    intro depth hdepth
    cases depth with
    | zero => simp [document, tagged, Datum.depth] at hdepth
    | succ depth =>
      have htable : Reader.list (readEntry (readAt depth)) (.list (entryDocuments table)) =
          .ok table := by
        rw [entryDocuments_eq_map]
        refine Reader.list_map fun entry hentry => readEntry_document fun e he => ?_
        have := depth_document_of_mem hentry he
        exact ih entry hentry e he depth (by omega)
      simp [document, tagged, readAt, readFields, Reader.optional, Table.get?_cons, htable]

theorem read_document (e : Effect α) : read e.document = .ok e :=
  readAt_document e _ (Nat.le_refl _)

theorem list_read_documents (effects : List (Effect α)) :
    Reader.list read (.list (documents effects)) = .ok effects := by
  rw [documents_eq_map]
  exact Reader.list_map fun e _ => read_document e

end Effect

end StoryRules
