import StoryRules.Table

/-!
# Reading tables

What a table says after it was written to: the written value at its key, and what was there before at
every other key.  An overlay changes no key that it does not have.

    (t.put k b).get? key = if k = key then some b else t.get? key      (get?_put)
-/

namespace StoryRules.Table

variable {β γ : Type}

theorem get?_cons (entry : String × β) (rest : Table β) (key : String) :
    get? (entry :: rest) key = if entry.1 = key then some entry.2 else get? rest key := by
  unfold get?
  rw [List.find?_cons]
  by_cases h : entry.1 = key <;> simp [h]

theorem has_eq_isSome (t : Table β) (key : String) : t.has key = (t.get? key).isSome := by
  induction t with
  | nil => rfl
  | cons entry rest ih =>
    rw [get?_cons]
    unfold has at ih ⊢
    rw [List.any_cons, ih]
    by_cases h : entry.1 = key <;> simp [h]

theorem has_iff {t : Table β} {key : String} : t.has key = true ↔ key ∈ t.keys := by
  simp [has, keys]

theorem mem_of_get? {t : Table β} {key : String} {b : β} (h : t.get? key = some b) :
    (key, b) ∈ t := by
  obtain ⟨⟨k, c⟩, hfound, rfl⟩ := Option.map_eq_some_iff.1 h
  have hkey := List.find?_some hfound
  simp only [decide_eq_true_eq] at hkey
  subst hkey
  exact List.mem_of_find?_eq_some hfound

/-- What the first of two tables does not have is looked up in the second. -/
theorem get?_append {t : Table β} {key : String} (h : key ∉ t.keys) (u : Table β) :
    get? (t ++ u) key = u.get? key := by
  have hnone : t.find? (fun entry => entry.1 = key) = none := by
    refine List.find?_eq_none.2 fun entry hentry => ?_
    have hne : entry.1 ≠ key := fun heq => h (heq ▸ List.mem_map_of_mem hentry)
    simpa using hne
  rw [get?, List.find?_append, hnone, Option.none_or, get?]

theorem get?_append_or (t u : Table β) (key : String) : get? (t ++ u) key = (t.get? key).or (u.get? key) := by
  rw [get?, List.find?_append, Option.map_or, get?, get?]

theorem get?_filter (here : String → Bool) (t : Table β) (key : String) :
    get? (t.filter fun entry => here entry.1) key = if here key then t.get? key else none := by
  induction t with
  | nil => exact (ite_self _).symm
  | cons entry rest ih =>
    rw [List.filter_cons, get?_cons]
    by_cases hkey : entry.1 = key
    · subst hkey
      by_cases hhere : here entry.1
      · rw [if_pos hhere, if_pos hhere, get?_cons, if_pos rfl, if_pos rfl]
      · rw [if_neg hhere, if_neg hhere, ih, if_neg hhere]
    · rw [if_neg hkey, ← ih]
      split
      · rw [get?_cons, if_neg hkey]
      · rfl

/-! ## Writing -/

theorem get?_put (t : Table β) (k : String) (b : β) (key : String) :
    (t.put k b).get? key = if k = key then some b else t.get? key := by
  induction t with
  | nil => rw [put, get?_cons]
  | cons entry rest ih =>
    rw [put]
    by_cases h : entry.1 = k
    · rw [if_pos h, get?_cons, get?_cons]
      subst h
      by_cases hkey : entry.1 = key <;> simp [hkey]
    · rw [if_neg h, get?_cons, get?_cons, ih]
      by_cases hkey : entry.1 = key
      · have : k ≠ key := fun e => h (hkey.trans e.symm)
        simp [hkey, this]
      · simp [hkey]

theorem has_put (t : Table β) (k : String) (b : β) (key : String) :
    (t.put k b).has key = (decide (k = key) || t.has key) := by
  rw [has_eq_isSome, has_eq_isSome, get?_put]
  by_cases h : k = key <;> simp [h]

/-- A new key goes to the end. -/
theorem put_new {t : Table β} {k : String} (h : t.has k = false) (b : β) :
    t.put k b = t ++ [(k, b)] := by
  induction t with
  | nil => rfl
  | cons entry rest ih =>
    obtain ⟨hne, hrest⟩ := Bool.or_eq_false_iff.1 h
    rw [put, if_neg (by simpa using hne), ih hrest, List.cons_append]

theorem mem_put {t : Table β} {k : String} {b : β} {entry : String × β}
    (h : entry ∈ t.put k b) : entry = (k, b) ∨ entry ∈ t := by
  induction t with
  | nil => exact .inl (by simpa [put] using h)
  | cons first rest ih =>
    rw [put] at h
    split at h
    · rcases List.mem_cons.1 h with rfl | h
      · exact .inl rfl
      · exact .inr (List.mem_cons_of_mem _ h)
    · rcases List.mem_cons.1 h with rfl | h
      · exact .inr List.mem_cons_self
      · exact (ih h).imp_right (List.mem_cons_of_mem _)

theorem put_put (t : Table β) (k : String) (b c : β) : (t.put k b).put k c = t.put k c := by
  induction t with
  | nil => simp [put]
  | cons entry rest ih =>
    rw [put, put]
    by_cases h : entry.1 = k
    · rw [if_pos h, if_pos h, put, if_pos rfl]
    · rw [if_neg h, if_neg h, put, if_neg h, ih]

/-! ## Mapping -/

theorem get?_mapValues (f : β → γ) (t : Table β) (key : String) :
    (t.mapValues f).get? key = (t.get? key).map f := by
  induction t with
  | nil => rfl
  | cons entry rest ih =>
    show get? ((entry.1, f entry.2) :: mapValues f rest) key = _
    rw [get?_cons, get?_cons, ih]
    by_cases h : entry.1 = key <;> simp [h]

theorem keys_mapValues (f : β → γ) (t : Table β) : (t.mapValues f).keys = t.keys := by
  unfold keys mapValues
  rw [List.map_map]
  rfl

theorem has_mapValues (f : β → γ) (t : Table β) (key : String) :
    (t.mapValues f).has key = t.has key := by
  rw [has_eq_isSome, get?_mapValues, Option.isSome_map, has_eq_isSome]

theorem mapValues_put (f : β → γ) (t : Table β) (k : String) (b : β) :
    (t.put k b).mapValues f = (t.mapValues f).put k (f b) := by
  induction t with
  | nil => rfl
  | cons entry rest ih =>
    show _ = put ((entry.1, f entry.2) :: mapValues f rest) k (f b)
    rw [put, put]
    split
    · rfl
    · rw [← ih]
      rfl

/-! ## Overlays -/

theorem overlay_cons (t : Table β) (entry : String × β) (u : Table β) :
    t.overlay (entry :: u) = (t.put entry.1 entry.2).overlay u := rfl

/-- A key that the overlay does not have keeps its value. -/
theorem get?_overlay {u : Table β} {key : String} (h : u.has key = false) :
    ∀ t : Table β, (t.overlay u).get? key = t.get? key := by
  induction u with
  | nil => exact fun t => rfl
  | cons entry rest ih =>
    intro t
    obtain ⟨hne, hrest⟩ := Bool.or_eq_false_iff.1 h
    rw [overlay_cons, ih hrest, get?_put, if_neg (by simpa using hne)]

/-- A key that the overlay has does not keep anything. -/
theorem get?_overlay_of_has {u : Table β} {key : String} (h : u.has key = true) :
    ∀ t t' : Table β, (t.overlay u).get? key = (t'.overlay u).get? key := by
  induction u with
  | nil => cases h
  | cons entry rest ih =>
    intro t t'
    rw [overlay_cons, overlay_cons]
    cases hrest : has rest key with
    | true => exact ih hrest _ _
    | false =>
      have hkey : (decide (entry.1 = key) || has rest key) = true := h
      rw [hrest, Bool.or_false, decide_eq_true_iff] at hkey
      rw [get?_overlay hrest, get?_overlay hrest, get?_put, get?_put, if_pos hkey, if_pos hkey]

/-- Where keys are distinct the overlay decides. -/
theorem get?_overlay_of_get? {u : Table β} {key : String} {b : β} (hu : u.keys.Nodup)
    (h : u.get? key = some b) : ∀ t : Table β, (t.overlay u).get? key = some b := by
  induction u with
  | nil => cases h
  | cons entry rest ih =>
    intro t
    obtain ⟨hnew, hrest⟩ := List.nodup_cons.1 hu
    rw [get?_cons] at h
    rw [overlay_cons]
    by_cases hkey : entry.1 = key
    · rw [if_pos hkey, Option.some.injEq] at h
      have hout : has rest key = false := by
        rw [← Bool.not_eq_true, has_iff, ← hkey]
        exact hnew
      rw [get?_overlay hout, get?_put, if_pos hkey, h]
    · rw [if_neg hkey] at h
      exact ih hrest h _

theorem mem_overlay {u : Table β} {entry : String × β} :
    ∀ {t : Table β}, entry ∈ t.overlay u → entry ∈ u ∨ entry ∈ t := by
  induction u with
  | nil => exact fun h => .inr h
  | cons first rest ih =>
    intro t h
    rcases ih h with h | h
    · exact .inl (List.mem_cons_of_mem _ h)
    · rcases mem_put h with rfl | h
      · exact .inl List.mem_cons_self
      · exact .inr h

theorem has_overlay (u : Table β) (key : String) :
    ∀ t : Table β, (t.overlay u).has key = (u.has key || t.has key) := by
  induction u with
  | nil => exact fun t => rfl
  | cons entry rest ih =>
    intro t
    have hcons : has (entry :: rest) key = (decide (entry.1 = key) || has rest key) := rfl
    rw [overlay_cons, ih, has_put, hcons, Bool.or_left_comm, ← Bool.or_assoc]

/-- Entries with new and different keys go to the end as they are. -/
theorem overlay_of_nodup (u : Table β) :
    ∀ t : Table β, (keys (t ++ u)).Nodup → t.overlay u = t ++ u := by
  induction u with
  | nil => exact fun t _ => (List.append_nil t).symm
  | cons entry u ih =>
    intro t h
    have hsplit : t ++ entry :: u = t ++ [entry] ++ u := by simp
    have hnew : t.has entry.1 = false := by
      rw [← Bool.not_eq_true, has_iff]
      intro hkey
      rw [keys, List.map_append, List.nodup_append] at h
      exact h.2.2 _ hkey _ List.mem_cons_self rfl
    rw [overlay_cons, put_new hnew, hsplit]
    exact ih _ (hsplit ▸ h)

theorem ofEntries_of_nodup {t : Table β} (h : t.keys.Nodup) : ofEntries t = t :=
  overlay_of_nodup t [] h

theorem mem_ofEntries {entries : List (String × β)} {entry : String × β}
    (h : entry ∈ ofEntries entries) : entry ∈ entries :=
  (mem_overlay h).resolve_right (by simp)

theorem has_ofEntries (entries : Table β) (key : String) :
    (ofEntries entries).has key = entries.has key := by
  rw [ofEntries, has_overlay]
  exact Bool.or_false _

end StoryRules.Table
