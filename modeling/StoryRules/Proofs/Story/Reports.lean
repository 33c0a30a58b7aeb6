import StoryRules.Proofs.Schema.Reports
import StoryRules.Story.Document

/-!
# Documents that are no stories

A document that is no story is refused with at least one message: every reader of a part of a story
gives reasons, at any depth of effects and requirements.

    Story.read d = .error e → e.messages ≠ []      (Story.messages_ne_nil)
-/

namespace StoryRules

variable {α : Type} [Number α]

open Reader
open Checked (Reports)

/-! ## Media -/

omit [Number α] in
theorem MediaAsset.read_explains : Explains (read : Reader α (MediaAsset α)) :=
  object_explains fun _ =>
    (required_reports text_explains).map _
      |>.seq (required_reports (oneOf_explains _))
      |>.seq (required_reports text_explains)
      |>.seq (optional_reports (nullable_explains text_explains))
      |>.seq (optional_reports (table_explains anything_explains))

omit [Number α] in
theorem MediaRef.read_explains : Explains (read : Reader α MediaRef) :=
  object_explains fun _ =>
    (required_reports text_explains).map _
      |>.seq (optional_reports (nullable_explains (oneOf_explains _)))

/-! ## Effects -/

namespace Effect

variable {nested : Reader α (Effect α)}

theorem readEntry_explains (h : Explains nested) : Explains (readEntry nested) :=
  object_explains fun _ =>
    (required_reports amount_explains).map _ |>.seq (optional_reports (list_explains h))

/-- An operation explains what is wrong in its fields if the effects inside it do. -/
theorem readFields_reports (h : Explains nested) (op : String) (fields : Table (Datum α)) :
    ∀ e ∈ readFields nested op fields, e.Reports := by
  intro e he
  unfold readFields at he
  split at he <;> cases he
  case h_6 => exact (optional_reports text_explains).map _
  case h_7 => exact (required_reports text_explains).map _
  case h_11 => exact (optional_reports (list_explains (readEntry_explains h))).map _
  case h_5 => exact (required_reports text_explains).map _ |>.seq (required_reports truth_explains)
  case h_3 | h_4 =>
    exact (required_reports text_explains).map _ |>.seq (required_reports amount_explains)
  all_goals exact (required_reports text_explains).map _ |>.seq (required_reports whole_explains)

theorem readAt_explains (depth : Nat) : Explains (readAt (α := α) depth) := by
  induction depth with
  | zero => exact fun d => .fail _
  | succ depth ih =>
    intro d
    cases d with
    | map fields =>
      unfold readAt
      split
      · exact .fail _
      · exact tagged_reports (fun op => readFields_reports ih op fields) _ _
    | _ => exact .fail _

theorem read_explains : Explains (read : Reader α (Effect α)) := fun d => readAt_explains d.depth d

end Effect

/-! ## Requirements -/

theorem Condition.readFields_reports (op : String) (fields : Table (Datum α)) :
    ∀ c ∈ readFields op fields, c.Reports := by
  have htext : ∀ name, (optional fields name none (nullable text)).Reports :=
    fun _ => optional_reports (nullable_explains text_explains)
  have hamount : ∀ name, (optional fields name none (nullable amount)).Reports :=
    fun _ => optional_reports (nullable_explains amount_explains)
  intro c hc
  unfold readFields at hc
  split at hc <;> cases hc
  case h_1 | h_2 =>
    exact (htext _).map _ |>.seq (optional_reports (nullable_explains whole_explains))
  case h_3 | h_4 | h_5 => exact (htext _).map _ |>.seq (hamount _)
  case h_6 => exact (htext _).map _ |>.seq (hamount _) |>.seq (hamount _)
  case h_7 => exact (htext _).map _ |>.seq (optional_reports (nullable_explains truth_explains))
  all_goals exact (htext _).map _

namespace Requirement

variable {nested : Reader α (Requirement α)}

theorem readFields_reports (h : Explains nested) (form : String) (fields : Table (Datum α)) :
    ∀ r ∈ readFields nested form fields, r.Reports := by
  intro r hr
  unfold readFields at hr
  split at hr
  · cases hr
    exact (optional_reports (list_explains h)).map _
  · cases hr
    exact (optional_reports (list_explains h)).map _
  · cases hr
    exact (required_reports h).map _
  · obtain ⟨c, hc, rfl⟩ := Option.map_eq_some_iff.1 hr
    exact (Condition.readFields_reports _ _ c hc).map _

theorem readAt_explains (depth : Nat) : Explains (readAt (α := α) depth) := by
  induction depth with
  | zero => exact fun d => .fail _
  | succ depth ih =>
    intro d
    cases d with
    | map fields =>
      unfold readAt
      split
      · exact .fail _
      · exact tagged_reports (fun form => readFields_reports ih form fields) _ _
    | _ => exact .fail _

theorem read_explains : Explains (read : Reader α (Requirement α)) :=
  fun d => readAt_explains d.depth d

end Requirement

/-! ## Catalogs -/

theorem Item.read_explains : Explains (read : Reader α Item) :=
  object_explains fun _ =>
    (required_reports text_explains).map _
      |>.seq (required_reports text_explains)
      |>.seq (optional_reports text_explains)
      |>.seq (optional_reports truth_explains)
      |>.seq (optional_reports (nullable_explains whole_explains))
      |>.seq (optional_reports (nullable_explains text_explains))
      |>.seq (optional_reports (nullable_explains text_explains))

omit [Number α] in
theorem Currency.read_explains : Explains (read : Reader α Currency) :=
  object_explains fun _ =>
    (required_reports text_explains).map _
      |>.seq (required_reports text_explains)
      |>.seq (optional_reports (nullable_explains text_explains))

theorem Stat.read_explains : Explains (read : Reader α (Stat α)) :=
  object_explains fun _ =>
    (required_reports text_explains).map _
      |>.seq (required_reports text_explains)
      |>.seq (required_reports amount_explains)
      |>.seq (required_reports amount_explains)
      |>.seq (required_reports amount_explains)

/-! ## Puzzles -/

namespace Puzzle

theorem readBlank_explains : Explains (readBlank : Reader α (Blank α)) :=
  object_explains fun _ =>
    (required_reports text_explains).map _
      |>.seq (required_reports (list_explains text_explains))
      |>.seq (optional_reports (list_explains (oneOf_explains _)))
      |>.seq (optional_reports amount_explains)

theorem readArea_explains : Explains (readArea : Reader α (Area α)) :=
  object_explains fun _ =>
    (required_reports text_explains).map _
      |>.seq (required_reports (oneOf_explains _))
      |>.seq (required_reports (list_explains amount_explains))
      |>.seq (optional_reports truth_explains)

theorem readOutcome_explains : Explains (readOutcome : Reader α (Outcome α)) :=
  object_explains fun _ =>
    (optional_reports (list_explains Effect.read_explains)).map _
      |>.seq (optional_reports (nullable_explains text_explains))

theorem readCost_explains : Explains (readCost : Reader α (HintCost α)) :=
  object_explains fun _ =>
    (required_reports text_explains).map _ |>.seq (required_reports amount_explains)

theorem readDynamic_explains : Explains (readDynamic : Reader α (Dynamic α)) :=
  object_explains fun _ =>
    (optional_reports (nullable_explains whole_explains)).map _
      |>.seq (optional_reports (nullable_explains readCost_explains))
      |>.seq (optional_reports (nullable_explains whole_explains))

theorem readVariant_explains : Explains (readVariant : Reader α (Variant α)) :=
  object_explains fun _ =>
    (required_reports amount_explains).map _
      |>.seq (optional_reports (table_explains anything_explains))

theorem readTask_reports (fields : Table (Datum α)) (kind : PuzzleKind) :
    (readTask fields kind).Reports := by
  have htexts : Explains (list text : Reader α (List String)) := list_explains text_explains
  have hwholes : Explains (list whole : Reader α (List Int)) := list_explains whole_explains
  have hsteps : Explains (list (oneOf stepNames) : Reader α (List TextStep)) :=
    list_explains (oneOf_explains _)
  cases kind with
  | mcq =>
    exact (required_reports htexts).map _
      |>.seq (required_reports hwholes)
      |>.seq (optional_reports truth_explains)
      |>.seq (optional_reports truth_explains)
  | text => exact (optional_reports htexts).map _ |>.seq (optional_reports hsteps)
  | regex => exact (required_reports text_explains).map _ |>.seq (optional_reports text_explains)
  | numeric =>
    exact (required_reports amount_explains).map _ |>.seq (optional_reports amount_explains)
  | articleDe =>
    exact (required_reports text_explains).map _
      |>.seq (required_reports (oneOf_explains _))
      |>.seq (optional_reports (nullable_explains (oneOf_explains _)))
  | clozeText =>
    exact (required_reports (list_explains readBlank_explains)).map _
      |>.seq (optional_reports truth_explains)
      |>.seq (optional_reports truth_explains)
  | matching =>
    exact (required_reports htexts).map _
      |>.seq (required_reports htexts)
      |>.seq (required_reports (list_explains (pair_explains whole_explains)))
      |>.seq (optional_reports truth_explains)
      |>.seq (optional_reports truth_explains)
  | ordering =>
    exact (required_reports htexts).map _
      |>.seq (required_reports hwholes)
      |>.seq (optional_reports truth_explains)
  | hotspot =>
    exact (required_reports (list_explains readArea_explains)).map _
      |>.seq (optional_reports truth_explains)

omit [Number α] in
theorem readMedia_reports (fields : Table (Datum α)) (kind : PuzzleKind) :
    (readMedia fields kind).Reports := by
  unfold readMedia
  split
  · exact required_reports (list_explains MediaRef.read_explains)
  · exact optional_reports (list_explains MediaRef.read_explains)

theorem readFields_reports (fields : Table (Datum α)) (kind : PuzzleKind) :
    (readFields fields kind).Reports :=
  (required_reports text_explains).map _
    |>.seq (optional_reports text_explains)
    |>.seq (readMedia_reports fields kind)
    |>.seq (optional_reports (nullable_explains whole_explains))
    |>.seq (optional_reports (nullable_explains whole_explains))
    |>.seq (optional_reports (list_explains text_explains))
    |>.seq (optional_reports (list_explains readVariant_explains))
    |>.seq (optional_reports (nullable_explains readOutcome_explains))
    |>.seq (optional_reports (nullable_explains readOutcome_explains))
    |>.seq (optional_reports truth_explains)
    |>.seq (optional_reports (nullable_explains readDynamic_explains))
    |>.seq (readTask_reports fields kind)

theorem read_explains : Explains (read : Reader α (Puzzle α)) := by
  intro d
  cases d with
  | map fields =>
    unfold read
    dsimp only
    split
    · exact .fail _
    · split
      · exact (readFields_reports _ _).under
      · exact .fail _
  | _ => exact .fail _

end Puzzle

/-! ## Nodes and stories -/

theorem Choice.read_explains : Explains (read : Reader α (Choice α)) :=
  object_explains fun _ =>
    (required_reports text_explains).map _
      |>.seq (required_reports text_explains)
      |>.seq (optional_reports (nullable_explains Requirement.read_explains))
      |>.seq (optional_reports (list_explains Effect.read_explains))
      |>.seq (optional_reports (nullable_explains text_explains))

theorem Node.readOnEnter_explains : Explains (readOnEnter : Reader α (List (Effect α))) :=
  object_explains fun _ => optional_reports (list_explains Effect.read_explains)

theorem Node.read_explains : Explains (read : Reader α (Node α)) :=
  object_explains fun _ =>
    (required_reports text_explains).map _
      |>.seq (optional_reports whole_explains)
      |>.seq ((optional_reports (nullable_explains (oneOf_explains _))).map _)
      |>.seq (optional_reports text_explains)
      |>.seq (optional_reports text_explains)
      |>.seq (optional_reports (list_explains MediaRef.read_explains))
      |>.seq (optional_reports (nullable_explains Node.readOnEnter_explains))
      |>.seq (optional_reports (nullable_explains Puzzle.read_explains))
      |>.seq (optional_reports (list_explains Choice.read_explains))

namespace Story

theorem readFields_reports (fields : Table (Datum α)) : (readFields fields).Reports :=
  (optional_reports text_explains).map _
    |>.seq (optional_reports text_explains)
    |>.seq (optional_reports text_explains)
    |>.seq (optional_reports (list_explains MediaAsset.read_explains))
    |>.seq (optional_reports (list_explains Item.read_explains))
    |>.seq (optional_reports (list_explains Currency.read_explains))
    |>.seq (optional_reports (list_explains Stat.read_explains))
    |>.seq (optional_reports (list_explains Node.read_explains))

/-- A document that is no story is refused with a message. -/
theorem messages_ne_nil {d : Datum α} {e : ShapeError} (h : Story.read d = .error e) :
    e.messages ≠ [] := by
  have hobject : ShapeError.notObject.messages ≠ [] := nofun
  cases d with
  | map fields =>
    unfold Story.read at h
    dsimp only at h
    split at h
    · cases h
    · next problems hproblems =>
      cases h
      cases problems with
      | nil => exact absurd hproblems (readFields_reports fields)
      | cons p rest => exact nofun
  | _ =>
    cases h
    exact hobject

end Story

end StoryRules
