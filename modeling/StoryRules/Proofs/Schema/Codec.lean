import Mathlib.Data.List.Forall2
import StoryRules.Proofs.Schema

/-!
# Fields read and written again

A codec reads what it writes.  Read and written again, a document keeps the names that its slots know and brings what
stands under each of them into the form in which it is written.  Each slot looks at its own name only.

    Fills fields slots written → written.get? name = (slots.get? name).bind fun slot => slot (fields.get? name)
                                                                                                    (Fills.get?)
-/

namespace StoryRules

variable {α β : Type}

/-- A reader and what it reads back. -/
structure Codec (α β : Type) where
  read : Reader α β
  write : β → Datum α
  read_write : ∀ b, read (write b) = .ok b

namespace Codec

theorem write_injective (c : Codec α β) : Function.Injective c.write := by
  intro a b h
  have hread := c.read_write b
  rw [← h, c.read_write] at hread
  exact Checked.ok.inj hread

/-! ## Shapes -/

abbrev text : Codec α String := ⟨Reader.text, .text, Reader.text_text⟩

abbrev truth [Number α] : Codec α Bool := ⟨Reader.truth, .bool, Reader.truth_bool⟩

abbrev amount [Number α] : Codec α α := ⟨Reader.amount, .num, Reader.amount_num⟩

abbrev whole [Number α] [FaithfulNumber α] : Codec α Int := ⟨Reader.whole, .whole, Reader.whole_whole⟩

abbrev list (c : Codec α β) : Codec α (List β) where
  read := Reader.list c.read
  write bs := .list (bs.map c.write)
  read_write _ := Reader.list_map fun b _ => c.read_write b

abbrev nullable (c : Codec α β) (hnull : ∀ b, c.write b ≠ .null) : Codec α (Option β) where
  read := Reader.nullable c.read
  write := Datum.ofOption c.write
  read_write _ := Reader.nullable_ofOption hnull fun b _ => c.read_write b

/-! ## Slots -/

/-- What stands at a place, read and written again.  Where nothing stands, the default is written, if there is one. -/
def rewrite (c : Codec α β) (default : Option β) : Option (Datum α) → Option (Datum α)
  | none => default.map c.write
  | some d => match c.read d with
    | .ok b => some (c.write b)
    | .bad _ => none

theorem rewrite_eq_some (c : Codec α β) {d : Datum α} {default : Option β} {b : β} :
    c.rewrite default (some d) = some (c.write b) ↔ c.read d = .ok b := by
  cases hread : c.read d with
  | ok a => simp [rewrite, hread, c.write_injective.eq_iff]
  | bad problems => simp [rewrite, hread]

theorem required_iff (c : Codec α β) {fields : Table (Datum α)} {name : String} {b : β} :
    Reader.required fields name c.read = .ok b ↔ c.rewrite none (fields.get? name) = some (c.write b) := by
  cases hfield : fields.get? name with
  | none =>
    unfold Reader.required
    rw [hfield]
    simp [rewrite]
  | some d => rw [Reader.required_eq hfield, Checked.under_eq_ok, c.rewrite_eq_some]

theorem optional_iff (c : Codec α β) {fields : Table (Datum α)} {name : String} {default b : β} :
    Reader.optional fields name default c.read = .ok b ↔
      c.rewrite (some default) (fields.get? name) = some (c.write b) := by
  cases hfield : fields.get? name with
  | none =>
    unfold Reader.optional
    rw [hfield]
    simp [rewrite, c.write_injective.eq_iff]
  | some d => rw [Reader.optional_eq hfield, Checked.under_eq_ok, c.rewrite_eq_some]

/-- A field that must be there is one with a default that is there. -/
theorem required_iff_optional (c : Codec α β) {fields : Table (Datum α)} {name : String} (default : β) {b : β} :
    Reader.required fields name c.read = .ok b ↔
      fields.has name = true ∧ Reader.optional fields name default c.read = .ok b := by
  rw [Table.has_eq_isSome]
  cases hfield : fields.get? name with
  | none =>
    unfold Reader.required
    rw [hfield]
    simp
  | some d => simp [Reader.required_eq hfield, Reader.optional_eq hfield]

end Codec

/-- How what stands under each name is rewritten. -/
abbrev Slots (α : Type) := Table (Option (Datum α) → Option (Datum α))

/-- A field that must be there. -/
def Codec.needed (c : Codec α β) (name : String) : String × (Option (Datum α) → Option (Datum α)) :=
  (name, c.rewrite none)

def Codec.withDefault (c : Codec α β) (name : String) (default : β) :
    String × (Option (Datum α) → Option (Datum α)) :=
  (name, c.rewrite (some default))

/-- What is written is what the slots make of the fields, one by one. -/
def Fills (fields : Table (Datum α)) : Slots α → Table (Datum α) → Prop :=
  List.Forall₂ fun slot entry => entry.1 = slot.1 ∧ slot.2 (fields.get? slot.1) = some entry.2

namespace Fills

variable {fields others mixed : Table (Datum α)} {slots : Slots α} {written : Table (Datum α)}

@[simp] theorem nil_iff : Fills fields [] written ↔ written = [] := List.forall₂_nil_left_iff

@[simp] theorem cons_iff {slot entry} :
    Fills fields (slot :: slots) (entry :: written) ↔
      (entry.1 = slot.1 ∧ slot.2 (fields.get? slot.1) = some entry.2) ∧ Fills fields slots written :=
  List.forall₂_cons

section

variable {c : Codec α β} {name : String} {default b : β} {rest : Prop}

theorem needed_iff (h : Fills fields slots written ↔ rest) :
    Fills fields (c.needed name :: slots) ((name, c.write b) :: written) ↔
      Reader.required fields name c.read = .ok b ∧ rest := by
  rw [cons_iff, h, c.required_iff]
  exact and_congr_left' (and_iff_right rfl)

theorem default_iff (h : Fills fields slots written ↔ rest) :
    Fills fields (c.withDefault name default :: slots) ((name, c.write b) :: written) ↔
      Reader.optional fields name default c.read = .ok b ∧ rest := by
  rw [cons_iff, h, c.optional_iff]
  exact and_congr_left' (and_iff_right rfl)

theorem last_iff :
    Fills fields [c.withDefault name default] [(name, c.write b)] ↔
      Reader.optional fields name default c.read = .ok b :=
  (default_iff (iff_of_true (nil_iff.2 rfl) trivial)).trans (and_iff_left trivial)

end

/-- Each name is rewritten from what stood under it. -/
theorem get? (h : Fills fields slots written) (name : String) :
    written.get? name = (slots.get? name).bind fun slot => slot (fields.get? name) := by
  induction h with
  | nil => rfl
  | @cons slot entry _ _ hfirst _ ih =>
    obtain ⟨hname, hvalue⟩ := hfirst
    rw [Table.get?_cons, Table.get?_cons, hname, ih]
    split
    · next heq => rw [← heq, Option.bind_some, hvalue]
    · rfl

/-- Two documents that are rewritten to one may be mixed. -/
theorem mix (h : Fills fields slots written) (h' : Fills others slots written)
    (hmixed : ∀ name, mixed.get? name = fields.get? name ∨ mixed.get? name = others.get? name) :
    Fills mixed slots written := by
  induction h with
  | nil => exact nil_iff.2 rfl
  | @cons slot entry _ _ hfirst _ ih =>
    obtain ⟨⟨-, hother⟩, hrest⟩ := cons_iff.1 h'
    refine cons_iff.2 ⟨⟨hfirst.1, ?_⟩, ih hrest⟩
    rcases hmixed slot.1 with heq | heq
    · rw [heq, hfirst.2]
    · rw [heq, hother]

end Fills

end StoryRules
