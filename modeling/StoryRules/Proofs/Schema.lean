import StoryRules.Proofs.Number
import StoryRules.Proofs.Table
import StoryRules.Schema.Reader

/-!
# Reading back

A reader undoes what a document was written from: scalars, lists and tables of them, and values that
may be missing.  A reader of several fields succeeds just where each field is read.

    (∀ b, read (write b) = .ok b) → list read (.list (bs.map write)) = .ok bs      (list_map)
-/

namespace StoryRules

variable {α β γ : Type}

namespace Checked

@[simp] theorem map_ok (f : β → γ) (b : β) : f <$> (Checked.ok b) = .ok (f b) := rfl

@[simp] theorem ok_seq (f : β → γ) (b : β) : (Checked.ok f <*> Checked.ok b) = .ok (f b) := rfl

@[simp] theorem under_ok (step : PathStep) (b : β) : (Checked.ok b).under step = .ok b := rfl

theorem map_eq_ok {f : β → γ} {b : Checked β} {c : γ} :
    f <$> b = .ok c ↔ ∃ a, b = .ok a ∧ f a = c := by
  constructor
  · intro h
    cases b with
    | ok a =>
      cases h
      exact ⟨a, rfl, rfl⟩
    | bad problems => cases h
  · rintro ⟨a, rfl, rfl⟩
    rfl

theorem seq_eq_ok {f : Checked (β → γ)} {b : Checked β} {c : γ} :
    f <*> b = .ok c ↔ ∃ g a, (f = .ok g ∧ b = .ok a) ∧ g a = c := by
  constructor
  · intro h
    cases f with
    | ok g =>
      cases b with
      | ok a =>
        cases h
        exact ⟨g, a, ⟨rfl, rfl⟩, rfl⟩
      | bad problems => cases h
    | bad problems => cases b <;> cases h
  · rintro ⟨g, a, ⟨rfl, rfl⟩, rfl⟩
    rfl

theorem under_eq_ok {step : PathStep} {b : Checked β} {c : β} :
    b.under step = .ok c ↔ b = .ok c := by
  cases b <;> simp [under]

/-- Whatever was read has a property. -/
def Gives (P : β → Prop) (b : Checked β) : Prop := ∀ c, b = .ok c → P c

namespace Gives

variable {P : γ → Prop}

theorem map {f : β → γ} {b : Checked β} (h : ∀ a, b = .ok a → P (f a)) : Gives P (f <$> b) := by
  intro c hc
  obtain ⟨a, ha, rfl⟩ := map_eq_ok.1 hc
  exact h a ha

theorem seq {f : Checked (β → γ)} {b : Checked β}
    (h : Gives (fun g => ∀ a, b = .ok a → P (g a)) f) : Gives P (f <*> b) := by
  intro c hc
  obtain ⟨g, a, ⟨hg, ha⟩, rfl⟩ := seq_eq_ok.1 hc
  exact h g hg a ha

end Gives

end Checked

theorem Datum.depth_le_of_mem {d : Datum α} {items : List (Datum α)} (h : d ∈ items) :
    d.depth ≤ depthOfList items := by
  induction items with
  | nil => cases h
  | cons first rest ih =>
    rw [depthOfList]
    rcases List.mem_cons.1 h with rfl | h
    · exact Nat.le_max_left ..
    · exact Nat.le_trans (ih h) (Nat.le_max_right ..)

namespace Reader

/-! ## Scalars -/

@[simp] theorem text_text (s : String) : text (.text s : Datum α) = .ok s := rfl

section

variable [Number α]

@[simp] theorem truth_bool (b : Bool) : truth (.bool b : Datum α) = .ok b := rfl

@[simp] theorem amount_num (x : α) : amount (.num x) = .ok x := rfl

@[simp] theorem whole_whole [FaithfulNumber α] (n : Int) :
    whole (.whole n : Datum α) = .ok n := by
  simp only [Datum.whole, whole, FaithfulNumber.toWhole_whole]

end

/-! ## Containers -/

theorem nullable_ofOption {read : Reader α β} {write : β → Datum α} {b : Option β}
    (hnull : ∀ c, write c ≠ .null) (h : ∀ c, b = some c → read (write c) = .ok c) :
    nullable read (Datum.ofOption write b) = .ok b := by
  cases b with
  | none => rfl
  | some c =>
    have hread : nullable read (write c) = (read (write c)).map some := by
      cases hc : write c with
      | null => exact absurd hc (hnull c)
      | _ => rfl
    rw [Datum.ofOption, hread, h c rfl]
    rfl

theorem nullable_text (s : Option String) :
    nullable text (Datum.ofOption .text s : Datum α) = .ok s :=
  nullable_ofOption (by rintro c ⟨⟩) fun _ _ => rfl

section

variable [Number α]

theorem nullable_whole [FaithfulNumber α] (n : Option Int) :
    nullable whole (Datum.ofOption .whole n : Datum α) = .ok n :=
  nullable_ofOption (by rintro c ⟨⟩) fun c _ => whole_whole c

theorem nullable_amount (x : Option α) : nullable amount (Datum.ofOption .num x) = .ok x :=
  nullable_ofOption (by rintro c ⟨⟩) fun _ _ => rfl

theorem nullable_truth (b : Option Bool) :
    nullable truth (Datum.ofOption .bool b : Datum α) = .ok b :=
  nullable_ofOption (by rintro c ⟨⟩) fun _ _ => rfl

end

theorem itemsFrom_map {read : Reader α β} {write : γ → Datum α} {value : γ → β} {cs : List γ}
    (h : ∀ c ∈ cs, read (write c) = .ok (value c)) :
    ∀ i, itemsFrom read i (cs.map write) = .ok (cs.map value) := by
  induction cs with
  | nil => exact fun i => rfl
  | cons c rest ih =>
    intro i
    rw [List.map_cons, itemsFrom, h c List.mem_cons_self,
      ih (fun d hd => h d (List.mem_cons_of_mem _ hd))]
    rfl

theorem list_map {read : Reader α β} {write : β → Datum α} {bs : List β}
    (h : ∀ b ∈ bs, read (write b) = .ok b) : list read (.list (bs.map write)) = .ok bs := by
  have hitems : itemsFrom read 0 (bs.map write) = .ok (bs.map id) := itemsFrom_map h 0
  rwa [List.map_id] at hitems

theorem list_texts (ss : List String) : list text (Datum.texts ss : Datum α) = .ok ss :=
  list_map fun _ _ => rfl

section

variable [Number α]

theorem list_wholes [FaithfulNumber α] (ns : List Int) :
    list whole (.list (ns.map .whole) : Datum α) = .ok ns :=
  list_map fun n _ => whole_whole n

theorem list_amounts (xs : List α) : list amount (.list (xs.map .num)) = .ok xs :=
  list_map fun _ _ => rfl

end

theorem table_mapValues {read : Reader α β} {write : β → Datum α} {t : Table β}
    (h : ∀ entry ∈ t, read (write entry.2) = .ok entry.2) :
    table read (.map (t.mapValues write)) = .ok t := by
  unfold table Table.mapValues
  induction t with
  | nil => rfl
  | cons entry rest ih =>
    rw [List.map_cons]
    dsimp only at ih ⊢
    rw [entriesFrom, h entry List.mem_cons_self, ih fun e he => h e (List.mem_cons_of_mem _ he)]
    rfl

theorem table_anything (t : Table (Datum α)) : table anything (.map t) = .ok t := by
  have hsame : Table.mapValues id t = t := List.map_id t
  have hread : table anything (.map (Table.mapValues id t)) = .ok t :=
    table_mapValues fun _ _ => rfl
  rwa [hsame] at hread

theorem keys_of_table {read : Reader α β} {fields : Table (Datum α)} {t : Table β}
    (h : table read (.map fields) = .ok t) : t.keys = fields.keys := by
  unfold table at h
  induction fields generalizing t with
  | nil =>
    cases h
    rfl
  | cons entry rest ih =>
    simp only [entriesFrom, Checked.seq_eq_ok, Checked.map_eq_ok] at h
    obtain ⟨_, _, ⟨⟨e, he, rfl⟩, hrest⟩, rfl⟩ := h
    obtain ⟨b, -, rfl⟩ := Checked.map_eq_ok.1 he
    have hkeys := ih hrest
    simp_all [Table.keys]

/-! ## Fields -/

theorem required_eq {fields : Table (Datum α)} {name : String} {d : Datum α}
    (h : fields.get? name = some d) (read : Reader α β) :
    required fields name read = (read d).under (.field name) := by
  unfold required
  rw [h]

theorem optional_eq {fields : Table (Datum α)} {name : String} {d : Datum α}
    (h : fields.get? name = some d) (default : β) (read : Reader α β) :
    optional fields name default read = (read d).under (.field name) := by
  unfold optional
  rw [h]

end Reader

end StoryRules
