import StoryRules.Proofs.Effect.Document
import StoryRules.Puzzle.Document

/-!
# Puzzles read back

Reading the document of a puzzle gives the puzzle.  The tag decides the kind again, and the fields of
the task stand behind those that all kinds share, so that no name is looked up in the wrong part.

    read (document p) = .ok p      (read_document)
-/

namespace StoryRules

variable {α : Type}

theorem PuzzleKind.ofName?_name (kind : PuzzleKind) : ofName? kind.name = some kind := by
  cases kind <;> decide

theorem MediaRef.read_document [Number α] (r : MediaRef) : read (α := α) r.document = .ok r := by
  have hrole : Reader.nullable (Reader.oneOf MediaRole.names)
      (Datum.ofOption (α := α) (fun role => .text role.name) r.role) = .ok r.role :=
    Reader.nullable_ofOption (by rintro _ ⟨⟩) fun role _ => by cases role <;> rfl
  simp [read, document, Reader.object, Reader.required, Reader.optional, Table.get?_cons, hrole]

namespace Puzzle

variable [Number α]

theorem read_eq_ok {fields : Table (Datum α)} {q : Puzzle α} (h : read (.map fields) = .ok q) :
    ∃ name kind, fields.get? "kind" = some (.text name) ∧ PuzzleKind.ofName? name = some kind ∧
      readFields fields kind = .ok q := by
  unfold read at h
  dsimp only at h
  split at h
  · cases h
  · next tag htag =>
    split at h
    · next kind hkind =>
      cases tag with
      | text name => exact ⟨name, kind, htag, hkind, Checked.under_eq_ok.1 h⟩
      | _ => cases hkind
    · cases h

theorem get?_fields_kind (p : Puzzle α) : p.fields.get? "kind" = some (.text p.kind.name) := by
  simp [fields, Table.get?_cons]

/-! ## Tasks -/

omit [Number α] in
theorem list_steps (steps : List TextStep) :
    Reader.list (Reader.oneOf stepNames) (.texts (steps.map TextStep.name) : Datum α) =
      .ok steps := by
  rw [Datum.texts, List.map_map]
  exact Reader.list_map fun step _ => by cases step <;> rfl

theorem read_blankDocument (b : Blank α) : readBlank (blankDocument b) = .ok b := by
  simp [readBlank, blankDocument, Reader.object, Reader.required, Reader.optional,
    Table.get?_cons, Reader.list_texts, list_steps]

theorem read_areaDocument (a : Area α) : readArea (areaDocument a) = .ok a := by
  have hshape : Reader.oneOf (α := α) shapes (.text a.shape.name) = .ok a.shape := by
    cases a.shape <;> rfl
  simp [readArea, areaDocument, Reader.object, Reader.required, Reader.optional,
    Table.get?_cons, Reader.list_amounts, hshape]

section

variable [FaithfulNumber α]

theorem list_pairs (pairs : List (Int × Int)) :
    Reader.list (Reader.pair Reader.whole)
      (.list (pairs.map fun p => .seq .tuple [.whole p.1, .whole p.2]) : Datum α) = .ok pairs :=
  Reader.list_map fun p _ => by simp [Reader.pair]

theorem readTask_taskFields (task : Task α) :
    readTask (taskFields task) task.kind = .ok task := by
  cases task with
  | articleDe noun gender case =>
    have hgender : Reader.oneOf (α := α) genders (.text gender.article) = .ok gender := by
      cases gender <;> rfl
    have hcase : Reader.nullable (Reader.oneOf cases)
        (Datum.ofOption (α := α) (fun c => .text c.name) case) = .ok case :=
      Reader.nullable_ofOption (by rintro _ ⟨⟩) fun c _ => by cases c <;> rfl
    simp [readTask, Task.kind, taskFields, Reader.required, Reader.optional, Table.get?_cons,
      hgender, hcase]
  | clozeText blanks shuffle partialScoring =>
    have hblanks : Reader.list readBlank (.list (blanks.map blankDocument)) = .ok blanks :=
      Reader.list_map fun b _ => read_blankDocument b
    simp [readTask, Task.kind, taskFields, Reader.required, Reader.optional, Table.get?_cons,
      hblanks]
  | hotspot areas allowMultiple =>
    have hareas : Reader.list readArea (.list (areas.map areaDocument)) = .ok areas :=
      Reader.list_map fun a _ => read_areaDocument a
    simp [readTask, Task.kind, taskFields, Reader.required, Reader.optional, Table.get?_cons,
      hareas]
  | _ =>
    simp [readTask, Task.kind, taskFields, wholes, Reader.required, Reader.optional,
      Table.get?_cons, Reader.list_texts, Reader.list_wholes, list_steps, list_pairs]

end

/-! ## Headers -/

/-- The fields that the documents of all kinds have. -/
def headerNames : List String :=
  ["id", "prompt", "media", "time_limit_ms", "attempts_max", "hints", "variants", "success",
   "failure", "gate_choices_until_solved", "dynamic", "kind"]

theorem get?_fields_of_task (p : Puzzle α) {name : String} (h : name ∉ headerNames) :
    p.fields.get? name = (taskFields p.task).get? name :=
  Table.get?_append h (taskFields p.task)

/-- The answer key of a puzzle's document is that of its task alone. -/
theorem readTask_fields (p : Puzzle α) (kind : PuzzleKind) :
    readTask p.fields kind = readTask (taskFields p.task) kind := by
  cases kind
  all_goals
    simp [readTask, Reader.required, Reader.optional, get?_fields_of_task p, headerNames]

theorem read_costDocument (c : HintCost α) : readCost (costDocument c) = .ok c := by
  simp [readCost, costDocument, Reader.object, Reader.required, Table.get?_cons]

theorem read_variantDocument (v : Variant α) : readVariant (variantDocument v) = .ok v := by
  simp [readVariant, variantDocument, Reader.object, Reader.required, Reader.optional,
    Table.get?_cons, Reader.table_anything]

variable [FaithfulNumber α]

theorem read_dynamicDocument (d : Dynamic α) : readDynamic (dynamicDocument d) = .ok d := by
  have hcost : Reader.nullable readCost (Datum.ofOption costDocument d.hintCost) =
      .ok d.hintCost :=
    Reader.nullable_ofOption (by rintro _ ⟨⟩) fun c _ => read_costDocument c
  simp [readDynamic, dynamicDocument, Reader.object, Reader.optional, Table.get?_cons, hcost,
    Reader.nullable_whole]

theorem nullable_dynamicDocument (d : Option (Dynamic α)) :
    Reader.nullable readDynamic (Datum.ofOption dynamicDocument d) = .ok d :=
  Reader.nullable_ofOption (by rintro _ ⟨⟩) fun d _ => read_dynamicDocument d

theorem read_outcomeDocument (o : Outcome α) : readOutcome (outcomeDocument o) = .ok o := by
  simp [readOutcome, outcomeDocument, Reader.object, Reader.optional, Table.get?_cons,
    Effect.list_read_documents, Reader.nullable_text]

theorem nullable_outcomeDocument (o : Option (Outcome α)) :
    Reader.nullable readOutcome (Datum.ofOption outcomeDocument o) = .ok o :=
  Reader.nullable_ofOption (by rintro _ ⟨⟩) fun o _ => read_outcomeDocument o

/-! ## Puzzles -/

theorem readFields_fields (p : Puzzle α) : readFields p.fields p.kind = .ok p := by
  have hmedia : Reader.list (α := α) MediaRef.read (.list (p.media.map MediaRef.document)) =
      .ok p.media :=
    Reader.list_map fun r _ => r.read_document
  have hvariants : Reader.list readVariant (.list (p.variants.map variantDocument)) =
      .ok p.variants :=
    Reader.list_map fun v _ => read_variantDocument v
  have htask : readTask p.fields p.kind = .ok p.task := by
    rw [readTask_fields]
    exact readTask_taskFields p.task
  rw [readFields, htask]
  simp [readMedia, fields, Reader.required, Reader.optional, Table.get?_cons, hmedia, hvariants,
    nullable_outcomeDocument, nullable_dynamicDocument, Reader.nullable_whole, Reader.list_texts]

theorem read_document (p : Puzzle α) : read p.document = .ok p := by
  simp only [read, document, get?_fields_kind, PuzzleKind.ofName?_name, readFields_fields,
    Checked.under_ok]

end Puzzle

end StoryRules
