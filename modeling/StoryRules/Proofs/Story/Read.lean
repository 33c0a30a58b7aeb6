import StoryRules.Proofs.Puzzle.Variant
import StoryRules.Story.Document

/-!
# Stories that were read

A story that is read from a document inherits from it that tables name no key twice.

    d.Tidy → Story.read d = .ok s → s.VariantsAreTables      (Story.variantsAreTables_of_read)
-/

namespace StoryRules

variable {α : Type}

/-! ## Tidy documents -/

namespace Datum

mutual

/-- No table names a key twice, at any depth. -/
def Tidy : Datum α → Prop
  | .seq _ items => TidyItems items
  | .map fields => (Table.keys fields).Nodup ∧ TidyFields fields
  | .record _ fields => (Table.keys fields).Nodup ∧ TidyFields fields
  | _ => True

def TidyItems : List (Datum α) → Prop
  | [] => True
  | d :: rest => d.Tidy ∧ TidyItems rest

def TidyFields : List (String × Datum α) → Prop
  | [] => True
  | (_, d) :: rest => d.Tidy ∧ TidyFields rest

end

theorem TidyItems.mem {items : List (Datum α)} (h : TidyItems items) : ∀ d ∈ items, d.Tidy := by
  induction items with
  | nil => simp
  | cons first rest ih =>
    intro d hd
    rcases List.mem_cons.1 hd with rfl | hd
    · exact h.1
    · exact ih h.2 d hd

theorem TidyFields.get? {fields : Table (Datum α)} (h : TidyFields fields) {key : String}
    {d : Datum α} (hd : fields.get? key = some d) : d.Tidy := by
  induction fields with
  | nil => cases hd
  | cons first rest ih =>
    rw [Table.get?_cons] at hd
    split at hd
    · cases hd
      exact h.1
    · exact ih h.2 hd

end Datum

/-! ## What readers bring -/

namespace Reader

variable {β : Type} {read : Reader α β} {P : β → Prop}

/-- Whatever is read from a tidy document has a property. -/
def Brings (read : Reader α β) (P : β → Prop) : Prop := ∀ d, d.Tidy → (read d).Gives P

theorem Brings.nullable (h : Brings read P) :
    Brings (Reader.nullable read) fun o => ∀ b, o = some b → P b := by
  intro d hd o ho b hb
  subst hb
  have hread : ∃ c, read d = .ok c ∧ some c = some b := by
    cases d with
    | null => cases ho
    | _ => exact Checked.map_eq_ok.1 ho
  obtain ⟨c, hc, ⟨⟩⟩ := hread
  exact h d hd b hc

theorem Brings.list (h : Brings read P) : Brings (Reader.list read) fun bs => ∀ b ∈ bs, P b := by
  intro d hd bs hbs
  cases d with
  | seq kind items =>
    have hitems : ∀ (items : List (Datum α)), (∀ d ∈ items, d.Tidy) → ∀ i,
        (itemsFrom read i items).Gives fun bs => ∀ b ∈ bs, P b := by
      intro items
      induction items with
      | nil =>
        rintro - i _ ⟨⟩
        simp
      | cons first rest ih =>
        intro htidy i
        refine .seq (.map fun b hb bs hbs => ?_)
        have hfirst := h first (htidy first List.mem_cons_self) b (Checked.under_eq_ok.1 hb)
        have hrest := ih (fun d hd => htidy d (List.mem_cons_of_mem _ hd)) (i + 1) bs hbs
        simpa using ⟨hfirst, hrest⟩
    exact hitems items (Datum.TidyItems.mem hd) 0 bs hbs
  | _ => cases hbs

theorem Brings.object {name : String} {readFields : Table (Datum α) → Checked β}
    (h : ∀ fields, (Table.keys fields).Nodup → Datum.TidyFields fields → (readFields fields).Gives P) :
    Brings (Reader.object name readFields) P := by
  intro d hd b hb
  cases d with
  | map fields => exact h fields hd.1 hd.2 b hb
  | _ => cases hb

theorem Brings.optional (h : Brings read P) {fields : Table (Datum α)}
    (htidy : Datum.TidyFields fields) {name : String} {default : β} (hdefault : P default) :
    (Reader.optional fields name default read).Gives P := by
  intro b hb
  unfold Reader.optional at hb
  split at hb
  · next d hd => exact h d (htidy.get? hd) b (Checked.under_eq_ok.1 hb)
  · cases hb
    exact hdefault

end Reader

/-! ## Variants -/

/-- The variants of a puzzle are tables: none names a field twice. -/
def Puzzle.VariantsAreTables (p : Puzzle α) : Prop := ∀ v ∈ p.variants, v.item.keys.Nodup

/-- So are those of a story. -/
def Story.VariantsAreTables (s : Story α) : Prop :=
  ∀ n ∈ s.nodes, ∀ p, n.puzzle = some p → p.VariantsAreTables

variable [Number α]

theorem Puzzle.brings_variant : Reader.Brings (α := α) readVariant fun v => v.item.keys.Nodup := by
  refine Reader.Brings.object fun fields _ htidy => .seq (.map fun weight _ item hitem => ?_)
  unfold Reader.optional at hitem
  split at hitem
  · next d hd =>
    have hread := Checked.under_eq_ok.1 hitem
    have hd := htidy.get? hd
    cases d with
    | map fields =>
      rw [Reader.keys_of_table hread]
      exact hd.1
    | _ => cases hread
  · cases hitem
    exact List.nodup_nil

theorem Puzzle.brings_puzzle : Reader.Brings (α := α) Puzzle.read Puzzle.VariantsAreTables := by
  intro d hd p hp
  cases d with
  | map fields =>
    obtain ⟨_, kind, -, -, hfields⟩ := read_eq_ok hp
    have hvariants := (readFields_gives _ _ _ hfields).variants
    exact brings_variant.list.optional hd.2 (by simp) _ hvariants
  | _ => cases hp

theorem Node.brings_node : Reader.Brings (α := α) Node.read fun n =>
    ∀ p, n.puzzle = some p → p.VariantsAreTables := by
  refine Reader.Brings.object fun fields _ htidy => ?_
  exact .seq (.seq (.seq (.seq (.seq (.seq (.seq (.seq (.map
    fun _ _ _ _ _ _ _ _ _ _ _ _ _ _ puzzle hpuzzle _ _ =>
      Puzzle.brings_puzzle.nullable.optional htidy (by simp) puzzle hpuzzle))))))))

/-- A story that is read from a tidy document has tables for variants. -/
theorem Story.variantsAreTables_of_read {d : Datum α} (hd : d.Tidy) {s : Story α}
    (h : Story.read d = .ok s) : s.VariantsAreTables := by
  cases d with
  | map fields =>
    have hfields : readFields fields = .ok s := by
      unfold Story.read at h
      dsimp only at h
      split at h
      · next s' hs' =>
        cases h
        exact hs'
      · cases h
    have hgives : (readFields fields).Gives Story.VariantsAreTables :=
      .seq (.seq (.seq (.seq (.seq (.seq (.seq (.map
        fun _ _ _ _ _ _ _ _ _ _ _ _ _ _ nodes hnodes =>
          Node.brings_node.list.optional hd.2 (by simp) nodes hnodes)))))))
    exact hgives s hfields
  | _ => cases h

end StoryRules
