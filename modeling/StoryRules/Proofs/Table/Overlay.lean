import Mathlib.Data.List.Forall2
import Mathlib.Data.List.Nodup
import StoryRules.Proofs.Table

/-!
# Overlays compose

Laying one table over another and a third over both is the same as laying over the first what the other two make of
each other.  That holds of the entries in their order, since a key keeps the place that it got first.

    u.keys.Nodup → (t.overlay u).overlay v = t.overlay (u.overlay v)                              (overlay_overlay)
-/

namespace StoryRules.Table

variable {β γ : Type}

/-! ## Keys -/

theorem keys_put_nodup {t : Table β} (h : t.keys.Nodup) (k : String) (b : β) : (t.put k b).keys.Nodup := by
  induction t with
  | nil => exact List.nodup_singleton k
  | cons entry rest ih =>
    obtain ⟨hnew, hrest⟩ := List.nodup_cons.1 h
    rw [put]
    split
    · next heq => exact List.nodup_cons.2 ⟨heq ▸ hnew, hrest⟩
    · next hne =>
      refine List.nodup_cons.2 ⟨fun hmem => ?_, ih hrest⟩
      have hhas : has (put rest k b) entry.1 = true := has_iff.2 hmem
      rw [has_put, Bool.or_eq_true, decide_eq_true_iff, has_iff] at hhas
      exact hhas.elim (fun heq => hne heq.symm) hnew

theorem keys_overlay_nodup {t : Table β} (h : t.keys.Nodup) (u : Table β) : (t.overlay u).keys.Nodup := by
  induction u generalizing t with
  | nil => exact h
  | cons entry rest ih => exact ih (keys_put_nodup h entry.1 entry.2)

theorem get?_of_mem {t : Table β} (h : t.keys.Nodup) {entry : String × β} (hmem : entry ∈ t) :
    t.get? entry.1 = some entry.2 := by
  induction t with
  | nil => cases hmem
  | cons first rest ih =>
    obtain ⟨hnew, hrest⟩ := List.nodup_cons.1 h
    rw [get?_cons]
    rcases List.mem_cons.1 hmem with rfl | hmem
    · exact if_pos rfl
    · have hne : first.1 ≠ entry.1 := fun heq => hnew (heq ▸ List.mem_map_of_mem hmem)
      rw [if_neg hne, ih hrest hmem]

/-- What an overlay with distinct keys has goes before what it is laid over. -/
theorem get?_overlay_or {u : Table β} (hu : u.keys.Nodup) (t : Table β) (key : String) :
    (t.overlay u).get? key = (u.get? key).or (t.get? key) := by
  cases hkey : u.get? key with
  | none =>
    have hout : u.has key = false := by rw [has_eq_isSome, hkey]; rfl
    rw [get?_overlay hout, Option.none_or]
  | some b => rw [get?_overlay_of_get? hu hkey, Option.some_or]

/-! ## Writing at a key that is there -/

/-- A key that is there keeps its place, whatever is written before. -/
theorem put_comm {t : Table β} {k k' : String} (hk : t.has k = true) (hne : k ≠ k') (b c : β) :
    (t.put k b).put k' c = (t.put k' c).put k b := by
  induction t with
  | nil => cases hk
  | cons entry rest ih =>
    by_cases h : entry.1 = k
    · have hother : entry.1 ≠ k' := fun heq => hne (h.symm.trans heq)
      simp [put, h, hne]
    · have hrest : has rest k = true := by
        have hcons : (decide (entry.1 = k) || has rest k) = true := hk
        rwa [decide_eq_false h, Bool.false_or] at hcons
      by_cases h' : entry.1 = k'
      · simp [put, h', Ne.symm hne]
      · simp [put, h, h', ih hrest]

theorem put_of_get? {t : Table β} {k : String} {b : β} (h : t.get? k = some b) : t.put k b = t := by
  induction t with
  | nil => cases h
  | cons entry rest ih =>
    rw [get?_cons] at h
    by_cases hkey : entry.1 = k
    · rw [if_pos hkey, Option.some.injEq] at h
      rw [put, if_pos hkey, ← hkey, ← h]
    · rw [if_neg hkey] at h
      rw [put, if_neg hkey, ih h]

/-! ## Overlays -/

/-- Writing what is there already changes nothing. -/
theorem overlay_of_get? {t u : Table β} (h : ∀ entry ∈ u, t.get? entry.1 = some entry.2) : t.overlay u = t := by
  induction u with
  | nil => rfl
  | cons entry rest ih =>
    obtain ⟨hfirst, hrest⟩ := List.forall_mem_cons.1 h
    rw [overlay_cons, put_of_get? hfirst, ih hrest]

theorem overlay_self {u : Table β} (hu : u.keys.Nodup) : u.overlay u = u :=
  overlay_of_get? fun _ hentry => get?_of_mem hu hentry

theorem put_overlay {u : Table β} {k : String} (hu : u.has k = false) (b : β) {t : Table β} (ht : t.has k = true) :
    (t.overlay u).put k b = (t.put k b).overlay u := by
  induction u generalizing t with
  | nil => rfl
  | cons entry rest ih =>
    obtain ⟨hne, hrest⟩ := Bool.or_eq_false_iff.1 hu
    have hkey : k ≠ entry.1 := fun heq => of_decide_eq_false hne heq.symm
    have hthere : (t.put entry.1 entry.2).has k = true := by rw [has_put, ht, Bool.or_true]
    rw [overlay_cons, overlay_cons, ih hrest hthere, put_comm ht hkey]

theorem overlay_put {u : Table β} (hu : u.keys.Nodup) (k : String) (b : β) (t : Table β) :
    t.overlay (u.put k b) = (t.overlay u).put k b := by
  induction u generalizing t with
  | nil => rfl
  | cons entry rest ih =>
    obtain ⟨hnew, hrest⟩ := List.nodup_cons.1 hu
    rw [put]
    split
    · next heq =>
      have hout : has rest k = false := by
        rw [← Bool.not_eq_true, has_iff, ← heq]
        exact hnew
      have hthere : (t.put entry.1 entry.2).has k = true := by rw [has_put, decide_eq_true heq, Bool.true_or]
      rw [overlay_cons, overlay_cons, put_overlay hout b hthere, ← heq, put_put]
    · rw [overlay_cons, overlay_cons, ih hrest]

theorem overlay_overlay {u : Table β} (hu : u.keys.Nodup) (t v : Table β) :
    (t.overlay u).overlay v = t.overlay (u.overlay v) := by
  induction v generalizing u with
  | nil => rfl
  | cons entry rest ih =>
    rw [overlay_cons, overlay_cons, ← overlay_put hu, ih (keys_put_nodup hu _ _)]

/-! ## Matched entries -/

/-- The same keys in the same order, with related values. -/
def Matched (R : β → γ → Prop) : Table β → Table γ → Prop :=
  List.Forall₂ fun entry entry' => entry.1 = entry'.1 ∧ R entry.2 entry'.2

namespace Matched

variable {R : β → γ → Prop} {t u : Table β} {t' u' : Table γ}

theorem put (h : Matched R t t') (k : String) {b : β} {c : γ} (hbc : R b c) :
    Matched R (t.put k b) (t'.put k c) := by
  induction h with
  | nil => exact .cons ⟨rfl, hbc⟩ .nil
  | @cons entry entry' _ _ hfirst hrest ih =>
    rw [Table.put, Table.put, ← hfirst.1]
    split
    · exact .cons ⟨rfl, hbc⟩ hrest
    · exact .cons hfirst ih

theorem overlay (h : Matched R t t') (hu : Matched R u u') : Matched R (t.overlay u) (t'.overlay u') := by
  induction hu generalizing t t' with
  | nil => exact h
  | @cons entry entry' _ _ hfirst _ ih =>
    rw [overlay_cons, overlay_cons, ← hfirst.1]
    exact ih (h.put _ hfirst.2)

theorem forall_right {P : γ → Prop} (h : Matched R t t') (hP : ∀ b c, R b c → P c) : ∀ entry ∈ t', P entry.2 := by
  induction h with
  | nil => exact List.forall_mem_nil _
  | cons hfirst _ ih => exact List.forall_mem_cons.2 ⟨hP _ _ hfirst.2, ih⟩

/-- Values that are changed on one side. -/
theorem mapLeft {δ : Type} {S : δ → γ → Prop} (h : Matched R t t') {f : β → δ} (hf : ∀ b c, R b c → S (f b) c) :
    Matched S (t.mapValues f) t' := by
  induction h with
  | nil => exact .nil
  | cons hfirst _ ih => exact .cons ⟨hfirst.1, hf _ _ hfirst.2⟩ ih

end Matched

end StoryRules.Table
