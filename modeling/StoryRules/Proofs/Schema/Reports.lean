import StoryRules.Schema.Reader

/-!
# Refusals have reasons

A reader that refuses a value says why: it reports at least one problem.  What is put together from
such readers is such a reader.

    list_explains : Explains read → Explains (list read)
-/

namespace StoryRules

variable {α β γ : Type}

namespace Checked

/-- If anything is refused, then for some reason. -/
def Reports (b : Checked β) : Prop := b ≠ .bad []

namespace Reports

variable {step : PathStep}

theorem ok (b : β) : (Checked.ok b).Reports := nofun

theorem fail (cause : Cause) : (Checked.fail cause : Checked β).Reports := nofun

theorem problem (p : Problem) (problems : List Problem) :
    (Checked.bad (p :: problems) : Checked β).Reports := nofun

theorem under {b : Checked β} (h : b.Reports) : (b.under step).Reports := by
  cases b with
  | ok b => exact ok b
  | bad problems =>
    cases problems with
    | nil => exact absurd rfl h
    | cons p rest => exact problem _ _

theorem map {b : Checked β} (f : β → γ) (h : b.Reports) : (f <$> b).Reports := by
  cases b with
  | ok b => exact ok (f b)
  | bad problems =>
    rintro ⟨⟩
    exact h rfl

theorem seq {f : Checked (β → γ)} {b : Checked β} (hf : f.Reports) (hb : b.Reports) :
    (f <*> b).Reports := by
  cases f with
  | ok f =>
    cases b with
    | ok b => exact ok (f b)
    | bad problems =>
      rintro ⟨⟩
      exact hb rfl
  | bad problems =>
    cases problems with
    | nil => exact absurd rfl hf
    | cons p rest => cases b <;> exact problem _ _

end Reports

end Checked

namespace Reader

/-- Whatever a reader refuses, it refuses for some reason. -/
def Explains (read : Reader α β) : Prop := ∀ d, (read d).Reports

open Checked (Reports)

/-! ## Scalars -/

theorem text_explains : Explains (text : Reader α String) := by
  intro d
  unfold text
  split
  · exact .ok _
  · split
    · exact .ok _
    · exact .fail _
  · exact .fail _

theorem oneOf_explains (choices : List (String × β)) : Explains (oneOf choices : Reader α β) := by
  intro d
  unfold oneOf
  split
  · split
    · exact .ok _
    · exact .fail _
  · exact .fail _

theorem anything_explains : Explains (anything : Reader α (Datum α)) := fun d => .ok d

section

variable [Number α]

theorem whole_explains : Explains (whole : Reader α Int) := by
  intro d
  unfold whole
  split
  · exact .ok _
  · split
    · exact .ok _
    all_goals exact .fail _
  · split
    · exact .ok _
    · exact .fail _
  · split
    · exact .fail _
    · split
      · exact .ok _
      · exact .fail _
  · exact .fail _

/-- The problems of an amount are those of either way to read it. -/
theorem amount_explains : Explains (amount : Reader α α) := by
  intro d
  unfold amount
  split
  · exact .ok _
  · split
    · exact .ok _
    · next problems hwhole =>
      -- the problems of the whole number come first, and there are some
      split
      · exact .ok _
      · cases problems with
        | nil => exact absurd hwhole (whole_explains _)
        | cons p rest => exact .problem _ _

theorem truthOfText_reports (s : String) : (truthOfText s).Reports := by
  unfold truthOfText
  split
  · exact .ok _
  · exact .fail _

theorem truthOfWhole_reports (n : Int) : (truthOfWhole n).Reports := by
  unfold truthOfWhole
  split
  · exact .ok _
  · split
    · exact .ok _
    · split <;> exact .fail _

theorem truth_explains : Explains (truth : Reader α Bool) := by
  intro d
  unfold truth
  split
  · exact .ok _
  · split
    · exact truthOfWhole_reports _
    · exact .fail _
  · exact truthOfText_reports _
  · split
    · exact truthOfText_reports _
    · exact .fail _
  · exact .fail _

end

/-! ## Containers -/

variable {read : Reader α β}

theorem nullable_explains (h : Explains read) : Explains (nullable read) := by
  intro d
  unfold nullable
  split
  · exact .ok _
  · exact (h d).map some

theorem itemsFrom_reports (h : Explains read) (items : List (Datum α)) :
    ∀ i, (itemsFrom read i items).Reports := by
  induction items with
  | nil => exact fun i => .ok []
  | cons d rest ih => exact fun i => (((h d).under).map List.cons).seq (ih (i + 1))

theorem list_explains (h : Explains read) : Explains (list read) := by
  intro d
  unfold list
  split
  · exact itemsFrom_reports h _ 0
  · exact .fail _

theorem entriesFrom_reports (h : Explains read) (fields : List (String × Datum α)) :
    (entriesFrom read fields).Reports := by
  induction fields with
  | nil => exact .ok []
  | cons field rest ih =>
    obtain ⟨key, d⟩ := field
    exact ((((h d).under).map fun b => (key, b)).map List.cons).seq ih

theorem table_explains (h : Explains read) : Explains (table read) := by
  intro d
  unfold table
  split
  · exact entriesFrom_reports h _
  · exact .fail _

theorem pair_explains (h : Explains read) : Explains (pair read) := by
  intro d
  unfold pair
  split
  · exact .problem _ _
  · next a => exact (((h a).under).map Prod.mk).seq (Reports.fail .missing).under
  · next a b => exact (((h a).under).map Prod.mk).seq (h b).under
  · exact .fail _
  · exact .fail _

/-! ## Fields -/

variable {fields : Table (Datum α)} {name : String}

theorem required_reports (h : Explains read) : (required fields name read).Reports := by
  unfold required
  split
  · next d hd => exact (h d).under
  · exact .problem _ _

theorem optional_reports {default : β} (h : Explains read) :
    (optional fields name default read).Reports := by
  unfold optional
  split
  · next d hd => exact (h d).under
  · exact .ok default

theorem object_explains {readFields : Table (Datum α) → Checked β}
    (h : ∀ fields, (readFields fields).Reports) : Explains (object name readFields) := by
  intro d
  unfold object
  split
  · exact h _
  · exact .fail _

/-- A value is refused because its tag is unknown, or for what is wrong in the fields of that tag. -/
theorem tagged_reports {known : String → Option (Checked β)} (h : ∀ tag, ∀ b ∈ known tag, b.Reports)
    (tag : Datum α) (cause : Cause) :
    ((match tag with
      | .text tag => (known tag).map (Checked.under (.field tag))
      | _ => none).getD (.fail cause)).Reports := by
  split
  · next tag =>
    cases hknown : known tag with
    | none => exact .fail cause
    | some b => exact (h tag b hknown).under
  · exact .fail cause

end Reader

end StoryRules
