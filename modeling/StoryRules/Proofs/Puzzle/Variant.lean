import StoryRules.Proofs.Puzzle.Document
import StoryRules.Validation.Flaw

/-!
# What a variant leaves alone

A variant is laid over the document of its puzzle, and the result is read again.  A field that it
does not name is read from what the puzzle itself wrote, and so stays as it is.

    p.withVariant v = .ok q → v.item.has (outcomeName success) = false →
      q.outcome? success = p.outcome? success      (outcome?_withVariant)
-/

namespace StoryRules

variable {α : Type}

namespace Puzzle

variable [Number α]

/-! ## Reading puzzles -/

/-- What reading the fields of a puzzle takes from each. -/
structure ReadFrom (fields : Table (Datum α)) (kind : PuzzleKind) (q : Puzzle α) : Prop where
  id : Reader.required fields "id" Reader.text = .ok q.id
  media : readMedia fields kind = .ok q.media
  attemptsMax : Reader.optional fields "attempts_max" none (Reader.nullable Reader.whole) =
    .ok q.attemptsMax
  hints : Reader.optional fields "hints" [] (Reader.list Reader.text) = .ok q.hints
  variants : Reader.optional fields "variants" [] (Reader.list readVariant) = .ok q.variants
  outcome : ∀ success, Reader.optional fields (outcomeName success) none
    (Reader.nullable readOutcome) = .ok (q.outcome? success)
  dynamic : Reader.optional fields "dynamic" none (Reader.nullable readDynamic) = .ok q.dynamic
  task : readTask fields kind = .ok q.task

theorem readFields_gives (fields : Table (Datum α)) (kind : PuzzleKind) :
    (readFields fields kind).Gives (ReadFrom fields kind) :=
  .seq (.seq (.seq (.seq (.seq (.seq (.seq (.seq (.seq (.seq (.seq (.map
    fun _ hid _ _ _ hmedia _ _ _ hattempts _ hhints _ hvariants _ hsuccess _ hfailure _ _ _ hdynamic
        _ htask =>
      ⟨hid, hmedia, hattempts, hhints, hvariants, Bool.rec hfailure hsuccess, hdynamic,
        htask⟩)))))))))))

theorem readTask_kind (fields : Table (Datum α)) (kind : PuzzleKind) :
    (readTask fields kind).Gives fun task => task.kind = kind := by
  cases kind
  all_goals
    unfold readTask
    repeat (first | exact Checked.Gives.map (by intros; rfl) | apply Checked.Gives.seq)

/-! ## What was read from where -/

variable {p q : Puzzle α} {v : Variant α}

theorem get?_fields_outcome (p : Puzzle α) (success : Bool) :
    p.fields.get? (outcomeName success) =
      some (Datum.ofOption outcomeDocument (p.outcome? success)) := by
  cases success <;> simp [fields, outcomeName, outcome?, Table.get?_cons]

/-- A puzzle with a variant is the puzzle itself, or it is read from both documents. -/
theorem withVariant_eq_ok (h : p.withVariant v = .ok q) :
    v.item = [] ∧ q = p ∨ ∃ name kind, (p.fields.overlay v.item).get? "kind" = some (.text name) ∧
      PuzzleKind.ofName? name = some kind ∧ ReadFrom (p.fields.overlay v.item) kind q := by
  unfold withVariant at h
  split at h
  · next hempty =>
    cases h
    exact .inl ⟨List.isEmpty_iff.1 hempty, rfl⟩
  · obtain ⟨name, kind, hname, hkind, hread⟩ := read_eq_ok h
    exact .inr ⟨name, kind, hname, hkind, readFields_gives _ _ _ hread⟩

theorem get?_fields_regex {pattern flags : String} (h : p.task = .regex pattern flags) :
    p.fields.get? "pattern" = some (.text pattern) ∧ p.fields.get? "flags" = some (.text flags) := by
  simp [fields, h, taskFields, Table.get?_cons]

/-! ## Reading back -/

section

variable [FaithfulNumber α]

theorem outcome?_withVariant (h : p.withVariant v = .ok q) {success : Bool}
    (hout : v.item.has (outcomeName success) = false) :
    q.outcome? success = p.outcome? success := by
  rcases withVariant_eq_ok h with ⟨-, rfl⟩ | ⟨_, _, -, -, hread⟩
  · rfl
  · have hfield := Table.get?_overlay hout p.fields
    rw [get?_fields_outcome] at hfield
    have houtcome := hread.outcome success
    rw [Reader.optional_eq hfield, nullable_outcomeDocument] at houtcome
    exact (Checked.ok.inj houtcome).symm

theorem attemptsMax_withVariant (h : p.withVariant v = .ok q)
    (hout : v.item.has "attempts_max" = false) : q.attemptsMax = p.attemptsMax := by
  rcases withVariant_eq_ok h with ⟨-, rfl⟩ | ⟨_, _, -, -, hread⟩
  · rfl
  · have hfield := Table.get?_overlay hout p.fields
    have hown : p.fields.get? "attempts_max" = some (Datum.ofOption .whole p.attemptsMax) := by
      simp [fields, Table.get?_cons]
    have hread := hread.attemptsMax
    rw [Reader.optional_eq (hfield.trans hown), Reader.nullable_whole] at hread
    exact (Checked.ok.inj hread).symm

/-- A variant that does not name the rules on attempts leaves them as they are. -/
theorem dynamic_withVariant (h : p.withVariant v = .ok q) (hout : v.item.has "dynamic" = false) :
    q.dynamic = p.dynamic := by
  rcases withVariant_eq_ok h with ⟨-, rfl⟩ | ⟨_, _, -, -, hread⟩
  · rfl
  · have hfield := Table.get?_overlay hout p.fields
    have hown : p.fields.get? "dynamic" = some (Datum.ofOption dynamicDocument p.dynamic) := by
      simp [fields, Table.get?_cons]
    have hread := hread.dynamic
    rw [Reader.optional_eq (hfield.trans hown), nullable_dynamicDocument] at hread
    exact (Checked.ok.inj hread).symm

end

/-- A variant that does not name the media leaves them as they are. -/
theorem media_withVariant (h : p.withVariant v = .ok q) (hout : v.item.has "media" = false) :
    q.media = p.media := by
  rcases withVariant_eq_ok h with ⟨-, rfl⟩ | ⟨_, kind, -, -, hread⟩
  · rfl
  · have hfield := Table.get?_overlay hout p.fields
    have hown : p.fields.get? "media" = some (.list (p.media.map MediaRef.document)) := by
      simp [fields, Table.get?_cons]
    have hback : Reader.list (α := α) MediaRef.read (.list (p.media.map MediaRef.document)) =
        .ok p.media :=
      Reader.list_map fun r _ => r.read_document
    have hread := hread.media
    unfold readMedia at hread
    rw [Reader.required_eq (hfield.trans hown), Reader.optional_eq (hfield.trans hown), hback,
      ite_self] at hread
    exact (Checked.ok.inj hread).symm

/-- A variant that names the puzzle's own id, or no id, keeps it. -/
theorem id_withVariant (h : p.withVariant v = .ok q) (hkeys : v.item.keys.Nodup)
    (hid : ∀ d, v.item.get? "id" = some d → d = .text p.id) : q.id = p.id := by
  rcases withVariant_eq_ok h with ⟨-, rfl⟩ | ⟨_, _, -, -, hread⟩
  · rfl
  · have hfield : (p.fields.overlay v.item).get? "id" = some (.text p.id) := by
      cases hown : v.item.get? "id" with
      | none =>
        have hout : v.item.has "id" = false := by rw [Table.has_eq_isSome, hown]; rfl
        rw [Table.get?_overlay hout]
        simp [fields, Table.get?_cons]
      | some d =>
        rw [hid d hown] at hown
        exact Table.get?_overlay_of_get? hkeys hown p.fields
    have hread := hread.id
    rw [Reader.required_eq hfield] at hread
    exact (Checked.ok.inj hread).symm

/-- A variant that names neither kind nor pattern nor flags makes no new pattern. -/
theorem regex_withVariant (h : p.withVariant v = .ok q) (hkind : v.item.has "kind" = false)
    (hpattern : v.item.has "pattern" = false) (hflags : v.item.has "flags" = false)
    {pattern flags : String} (hq : q.task = .regex pattern flags) :
    p.task = .regex pattern flags := by
  rcases withVariant_eq_ok h with ⟨-, rfl⟩ | ⟨name, kind, hname, hofName, hread⟩
  · exact hq
  · rw [Table.get?_overlay hkind, get?_fields_kind] at hname
    cases hname
    rw [PuzzleKind.ofName?_name] at hofName
    cases hofName
    have hread := hread.task
    have hsame := readTask_kind _ _ _ hread
    rw [hq] at hsame hread
    cases hp : p.task with
    | regex own ownFlags =>
      obtain ⟨hown, hownFlags⟩ := get?_fields_regex hp
      have hkind : p.kind = .regex := hsame.symm
      rw [hkind, readTask, Reader.required_eq ((Table.get?_overlay hpattern _).trans hown),
        Reader.optional_eq ((Table.get?_overlay hflags _).trans hownFlags)] at hread
      cases hread
      rfl
    | _ =>
      have hkind : p.kind = .regex := hsame.symm
      unfold kind at hkind
      rw [hp] at hkind
      cases hkind

end Puzzle

end StoryRules
