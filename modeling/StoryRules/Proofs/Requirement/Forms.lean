import StoryRules.Proofs.Requirement.Influence
import StoryRules.Proofs.Story.Read
import StoryRules.Requirement.Document

/-!
# What requirement documents say

An object may carry several forms of a requirement at once.  The first of `all_of`, `any_of`, `not`, `not_` and `op`
that it carries decides what it says, and the others are not read.  In a document in which each object carries
exactly one form, all conditions that are written are there when it is read, in the same order.

    read (.map fields) = .ok r ↔ Means fields r      (read_iff_means)
-/

namespace StoryRules

variable {α β : Type}

/-! ## Lists of items -/

namespace Reader

theorem itemsFrom_eq_ok {read : Reader α β} {items : List (Datum α)} : ∀ {i : Nat} {bs : List β},
    itemsFrom read i items = .ok bs ↔ List.Forall₂ (fun d b => read d = .ok b) items bs := by
  induction items with
  | nil =>
    intro i bs
    rw [itemsFrom, List.forall₂_nil_left_iff, Checked.ok.injEq, eq_comm]
  | cons d rest ih =>
    intro i bs
    rw [itemsFrom, Checked.seq_eq_ok, List.forall₂_cons_left_iff]
    simp only [Checked.map_eq_ok, Checked.under_eq_ok, ih]
    constructor
    · rintro ⟨_, cs, ⟨⟨b, hb, rfl⟩, hcs⟩, rfl⟩
      exact ⟨b, cs, hb, hcs, rfl⟩
    · rintro ⟨b, cs, hb, hcs, rfl⟩
      exact ⟨_, cs, ⟨⟨b, hb, rfl⟩, hcs⟩, rfl⟩

theorem list_eq_ok {read : Reader α β} {d : Datum α} {bs : List β} : list read d = .ok bs ↔
    ∃ kind items, d = .seq kind items ∧ List.Forall₂ (fun d b => read d = .ok b) items bs := by
  cases d <;> simp [list, itemsFrom_eq_ok, Checked.fail]

theorem list_congr {read read' : Reader α β} {d : Datum α}
    (h : ∀ e, e.depth < d.depth → read e = read' e) : list read d = list read' d := by
  cases d with
  | seq kind items =>
    have hitems : ∀ (items : List (Datum α)), (∀ e ∈ items, read e = read' e) → ∀ i,
        itemsFrom read i items = itemsFrom read' i items := by
      intro items
      induction items with
      | nil => exact fun _ _ => rfl
      | cons e rest ih =>
        intro h i
        obtain ⟨he, hrest⟩ := List.forall_mem_cons.1 h
        rw [itemsFrom, itemsFrom, he, ih hrest]
    exact hitems items (fun e he => h e (Nat.lt_succ_of_le (Datum.depth_le_of_mem he))) 0
  | _ => rfl

end Reader

theorem Datum.depth_le_of_get? {fields : Table (Datum α)} {name : String} {d : Datum α}
    (h : fields.get? name = some d) : d.depth ≤ depthOfFields fields := by
  induction fields with
  | nil => cases h
  | cons entry rest ih =>
    rw [Table.get?_cons] at h
    rw [depthOfFields]
    split at h
    · cases h
      exact Nat.le_max_left ..
    · exact Nat.le_trans (ih h) (Nat.le_max_right ..)

namespace Requirement

variable [Number α] {fields : Table (Datum α)} {r : Requirement α} {d : Datum α}

/-! ## Depth -/

theorem readFields_congr {nested nested' : Reader α (Requirement α)}
    (h : ∀ d, d.depth ≤ Datum.depthOfFields fields → nested d = nested' d) (form : String) :
    readFields nested form fields = readFields nested' form fields := by
  have hlist : ∀ name d, fields.get? name = some d → Reader.list nested d = Reader.list nested' d := fun name d hd =>
    Reader.list_congr fun e he => h e (Nat.le_trans (Nat.le_of_lt he) (Datum.depth_le_of_get? hd))
  have hoptional : ∀ name, Reader.optional fields name [] (Reader.list nested) =
      Reader.optional fields name [] (Reader.list nested') := by
    intro name
    unfold Reader.optional
    split
    · next d hd => rw [hlist name d hd]
    · rfl
  have hrequired : ∀ name, Reader.required fields name nested = Reader.required fields name nested' := by
    intro name
    unfold Reader.required
    split
    · next d hd => rw [h d (Datum.depth_le_of_get? hd)]
    · rfl
  unfold readFields
  split
  · rw [hoptional]
  · rw [hoptional]
  · rw [hrequired]
  · rfl

/-- How deep containers may be nested makes no difference once it is deep enough. -/
theorem readAt_eq_readAt {m n : Nat} (hm : d.depth ≤ m) (hn : d.depth ≤ n) : readAt m d = readAt n d := by
  induction m generalizing d n with
  | zero =>
    cases d with
    | map fields => cases hm
    | _ => cases n <;> rfl
  | succ m ih =>
    cases d with
    | map fields =>
      cases n with
      | zero => cases hn
      | succ n =>
        have hfields : ∀ form, readFields (readAt m) form fields = readFields (readAt n) form fields :=
          readFields_congr fun d hd =>
            ih (Nat.le_trans hd (Nat.le_of_succ_le_succ hm)) (Nat.le_trans hd (Nat.le_of_succ_le_succ hn))
        unfold readAt
        simp only [hfields]
    | _ => cases n <;> rfl

theorem readAt_eq_read {n : Nat} (h : d.depth ≤ n) : readAt n d = read d := readAt_eq_readAt h (Nat.le_refl _)

/-! ## Forms -/

/-- The fields of composites. -/
def composites : List String := ["all_of", "any_of", "not", "not_"]

/-- What an object says: the first form that it carries decides, and nothing is asked of the others.  A tag alone
may name an empty composite. -/
inductive Means (fields : Table (Datum α)) : Requirement α → Prop
  | allOf {kind : SeqKind} {items : List (Datum α)} {parts : List (Requirement α)} :
    fields.get? "all_of" = some (.seq kind items) → List.Forall₂ (fun d part => read d = .ok part) items parts →
    Means fields (.allOf parts)
  | anyOf {kind : SeqKind} {items : List (Datum α)} {parts : List (Requirement α)} :
    fields.get? "all_of" = none →
    fields.get? "any_of" = some (.seq kind items) → List.Forall₂ (fun d part => read d = .ok part) items parts →
    Means fields (.anyOf parts)
  | not {d : Datum α} {part : Requirement α} :
    fields.get? "all_of" = none → fields.get? "any_of" = none →
    fields.get? "not" = some d → read d = .ok part → Means fields (.not part)
  | not_ {d : Datum α} {part : Requirement α} :
    fields.get? "all_of" = none → fields.get? "any_of" = none → fields.get? "not" = none →
    fields.get? "not_" = some d → read d = .ok part → Means fields (.not part)
  | condition {op : String} {c : Condition α} :
    (∀ name ∈ composites, fields.get? name = none) → fields.get? "op" = some (.text op) → op ∈ Condition.ops →
    Condition.readFields op fields = some (.ok c) → c.op = op → Means fields (.condition c)
  | emptyAll : (∀ name ∈ composites, fields.get? name = none) → fields.get? "op" = some (.text "all_of") →
    Means fields (.allOf [])
  | emptyAny : (∀ name ∈ composites, fields.get? name = none) → fields.get? "op" = some (.text "any_of") →
    Means fields (.anyOf [])

/-- An object that carries no form, but a tag with the name of a composite. -/
def NamesComposite (fields : Table (Datum α)) : Prop :=
  (∀ name ∈ composites, fields.get? name = none) ∧
    ∃ name ∈ ["all_of", "any_of"], fields.get? "op" = some (.text name)

omit [Number α] in
/-- Without a composite the tag decides. -/
theorem form?_of_plain (h : ∀ name ∈ composites, fields.get? name = none) :
    form? fields = match fields.get? "op" with
      | some .null => none
      | op => op := by
  have hhas : ∀ name ∈ composites, fields.has name = false := fun name hname => by
    rw [Table.has_eq_isSome, h name hname, Option.isSome_none]
  simp only [composites, List.forall_mem_cons] at hhas
  obtain ⟨hall, hany, hnot, hnot_, -⟩ := hhas
  simp only [form?, hall, hany, hnot, hnot_]
  rfl

theorem read_of_form {form : String} (h : form? fields = some (.text form)) :
    read (.map fields) = .ok r ↔ readFields read form fields = some (.ok r) := by
  have hnested : readFields (readAt (Datum.depthOfFields fields)) form fields = readFields read form fields :=
    readFields_congr (fun d hd => readAt_eq_read hd) form
  show readAt (Datum.depthOfFields fields + 1) (.map fields) = .ok r ↔ _
  rw [readAt]
  simp only [h, hnested]
  cases readFields read form fields with
  | none => simp [Checked.fail]
  | some c => simp [Checked.under_eq_ok]

theorem form_of_read (h : read (.map fields) = .ok r) : ∃ form, form? fields = some (.text form) := by
  have h : readAt (Datum.depthOfFields fields + 1) (.map fields) = .ok r := h
  rw [readAt] at h
  cases hform : form? fields with
  | none =>
    rw [hform] at h
    cases h
  | some tag =>
    rw [hform] at h
    cases tag with
    | text form => exact ⟨form, rfl⟩
    | _ => cases h

theorem mem_ops_of_readFields {op : String} {c : Checked (Condition α)}
    (h : Condition.readFields op fields = some c) : op ∈ Condition.ops := by
  unfold Condition.readFields at h
  split at h
  case h_10 => cases h
  all_goals decide

/-- The fields of a test give a condition of that test. -/
theorem op_of_readFields {op : String} {c : Checked (Condition α)} (h : Condition.readFields op fields = some c) :
    c.Gives fun c => c.op = op := by
  unfold Condition.readFields at h
  split at h <;> cases h
  case h_6 => exact .seq (.seq (.map fun _ _ _ _ _ _ => rfl))
  case h_8 => exact .map fun _ _ => rfl
  case h_9 => exact .map fun _ _ => rfl
  all_goals exact .seq (.map fun _ _ _ _ => rfl)

theorem readFields_op {op : String} (h : op ∈ Condition.ops) (nested : Reader α (Requirement α)) :
    readFields nested op fields = (Condition.readFields op fields).map fun c => condition <$> c := by
  have hother : op ≠ "all_of" ∧ op ≠ "any_of" ∧ op ≠ "not" := by
    refine ⟨?_, ?_, ?_⟩ <;> rintro rfl <;> revert h <;> decide
  unfold readFields
  split
  · exact absurd rfl hother.1
  · exact absurd rfl hother.2.1
  · exact absurd rfl hother.2.2
  · rfl

theorem read_allOf (h : fields.get? "all_of" = some d) :
    read (.map fields) = .ok r ↔ ∃ parts, Reader.list read d = .ok parts ∧ allOf parts = r := by
  have hform : form? fields = some (.text "all_of") := by simp [form?, Table.has_eq_isSome, h]
  rw [read_of_form hform, readFields, Reader.optional_eq h, Option.some.injEq, Checked.map_eq_ok]
  simp only [Checked.under_eq_ok]

theorem read_anyOf (hall : fields.get? "all_of" = none) (h : fields.get? "any_of" = some d) :
    read (.map fields) = .ok r ↔ ∃ parts, Reader.list read d = .ok parts ∧ anyOf parts = r := by
  have hform : form? fields = some (.text "any_of") := by simp [form?, Table.has_eq_isSome, hall, h]
  rw [read_of_form hform, readFields, Reader.optional_eq h, Option.some.injEq, Checked.map_eq_ok]
  simp only [Checked.under_eq_ok]

theorem read_not (hall : fields.get? "all_of" = none) (hany : fields.get? "any_of" = none)
    (h : fields.get? "not" = some d) :
    read (.map fields) = .ok r ↔ ∃ part, read d = .ok part ∧ Requirement.not part = r := by
  have hform : form? fields = some (.text "not") := by simp [form?, Table.has_eq_isSome, hall, hany, h]
  have hname : (fields.has "not_" && !fields.has "not") = false := by simp [Table.has_eq_isSome, h]
  rw [read_of_form hform, readFields, hname, if_neg Bool.false_ne_true, Reader.required_eq h, Option.some.injEq,
    Checked.map_eq_ok]
  simp only [Checked.under_eq_ok]

theorem read_not_ (hall : fields.get? "all_of" = none) (hany : fields.get? "any_of" = none)
    (hnot : fields.get? "not" = none) (h : fields.get? "not_" = some d) :
    read (.map fields) = .ok r ↔ ∃ part, read d = .ok part ∧ Requirement.not part = r := by
  have hform : form? fields = some (.text "not") := by simp [form?, Table.has_eq_isSome, hall, hany, h]
  have hname : (fields.has "not_" && !fields.has "not") = true := by simp [Table.has_eq_isSome, hnot, h]
  rw [read_of_form hform, readFields, hname, if_pos rfl, Reader.required_eq h, Option.some.injEq, Checked.map_eq_ok]
  simp only [Checked.under_eq_ok]

theorem read_tag {op : String} (hplain : ∀ name ∈ composites, fields.get? name = none)
    (h : fields.get? "op" = some (.text op)) :
    read (.map fields) = .ok r ↔ readFields read op fields = some (.ok r) :=
  read_of_form (by rw [form?_of_plain hplain, h])

theorem read_op {op : String} (hplain : ∀ name ∈ composites, fields.get? name = none)
    (h : fields.get? "op" = some (.text op)) (hmem : op ∈ Condition.ops) :
    read (.map fields) = .ok r ↔ ∃ c, Condition.readFields op fields = some (.ok c) ∧ condition c = r := by
  rw [read_tag hplain h, readFields_op hmem, Option.map_eq_some_iff]
  simp only [Checked.map_eq_ok]
  constructor
  · rintro ⟨_, hc, c, rfl, rfl⟩
    exact ⟨c, hc, rfl⟩
  · rintro ⟨c, hc, rfl⟩
    exact ⟨_, hc, c, rfl, rfl⟩

/-- A composite that only the tag names has no parts. -/
theorem read_emptyAll (hplain : ∀ name ∈ composites, fields.get? name = none)
    (h : fields.get? "op" = some (.text "all_of")) : read (.map fields) = .ok r ↔ allOf [] = r := by
  rw [read_tag hplain h, readFields, Reader.optional, hplain _ (by simp [composites]), Option.some.injEq]
  show Checked.ok (allOf []) = Checked.ok r ↔ _
  rw [Checked.ok.injEq]

theorem read_emptyAny (hplain : ∀ name ∈ composites, fields.get? name = none)
    (h : fields.get? "op" = some (.text "any_of")) : read (.map fields) = .ok r ↔ anyOf [] = r := by
  rw [read_tag hplain h, readFields, Reader.optional, hplain _ (by simp [composites]), Option.some.injEq]
  show Checked.ok (anyOf []) = Checked.ok r ↔ _
  rw [Checked.ok.injEq]

/-- Without a composite, what is read has a tag, that of a test or the name of a composite with a list of parts. -/
theorem exists_tag_of_read (hplain : ∀ name ∈ composites, fields.get? name = none)
    (h : read (.map fields) = .ok r) :
    ∃ op, fields.get? "op" = some (.text op) ∧ (op = "all_of" ∨ op = "any_of" ∨ op ∈ Condition.ops) := by
  obtain ⟨op, hform⟩ := form_of_read h
  rw [read_of_form hform] at h
  have hop : fields.get? "op" = some (.text op) := by
    rw [form?_of_plain hplain] at hform
    split at hform
    · cases hform
    · exact hform
  refine ⟨op, hop, ?_⟩
  unfold readFields at h
  split at h
  · exact .inl rfl
  · exact .inr (.inl rfl)
  · have hnone : fields.get? "not" = none := hplain _ (by simp [composites])
    have hnone_ : fields.get? "not_" = none := hplain _ (by simp [composites])
    rw [Table.has_eq_isSome, hnone_, Option.isSome_none, Bool.false_and, if_neg Bool.false_ne_true, Reader.required,
      hnone] at h
    cases h
  · obtain ⟨c, hc, -⟩ := Option.map_eq_some_iff.1 h
    exact .inr (.inr (mem_ops_of_readFields hc))

/-- What is read of an object is what it says. -/
theorem read_iff_means : read (.map fields) = .ok r ↔ Means fields r := by
  constructor
  · intro h
    cases hall : fields.get? "all_of" with
    | some d =>
      obtain ⟨parts, hparts, rfl⟩ := (read_allOf hall).1 h
      obtain ⟨kind, items, rfl, hitems⟩ := Reader.list_eq_ok.1 hparts
      exact .allOf hall hitems
    | none =>
    cases hany : fields.get? "any_of" with
    | some d =>
      obtain ⟨parts, hparts, rfl⟩ := (read_anyOf hall hany).1 h
      obtain ⟨kind, items, rfl, hitems⟩ := Reader.list_eq_ok.1 hparts
      exact .anyOf hall hany hitems
    | none =>
    cases hnot : fields.get? "not" with
    | some d =>
      obtain ⟨part, hpart, rfl⟩ := (read_not hall hany hnot).1 h
      exact .not hall hany hnot hpart
    | none =>
    cases hnot_ : fields.get? "not_" with
    | some d =>
      obtain ⟨part, hpart, rfl⟩ := (read_not_ hall hany hnot hnot_).1 h
      exact .not_ hall hany hnot hnot_ hpart
    | none =>
      have hplain : ∀ name ∈ composites, fields.get? name = none := by
        simp [composites, hall, hany, hnot, hnot_]
      obtain ⟨op, hop, rfl | rfl | hmem⟩ := exists_tag_of_read hplain h
      · obtain rfl := (read_emptyAll hplain hop).1 h
        exact .emptyAll hplain hop
      · obtain rfl := (read_emptyAny hplain hop).1 h
        exact .emptyAny hplain hop
      · obtain ⟨c, hc, rfl⟩ := (read_op hplain hop hmem).1 h
        exact .condition hplain hop hmem hc (op_of_readFields hc c rfl)
  · intro h
    cases h with
    | allOf hall hparts => exact (read_allOf hall).2 ⟨_, Reader.list_eq_ok.2 ⟨_, _, rfl, hparts⟩, rfl⟩
    | anyOf hall hany hparts => exact (read_anyOf hall hany).2 ⟨_, Reader.list_eq_ok.2 ⟨_, _, rfl, hparts⟩, rfl⟩
    | not hall hany hnot hpart => exact (read_not hall hany hnot).2 ⟨_, hpart, rfl⟩
    | not_ hall hany hnot hnot_ hpart => exact (read_not_ hall hany hnot hnot_).2 ⟨_, hpart, rfl⟩
    | condition hplain hop hmem hc _ => exact (read_op hplain hop hmem).2 ⟨_, hc, rfl⟩
    | emptyAll hplain hop => exact (read_emptyAll hplain hop).2 rfl
    | emptyAny hplain hop => exact (read_emptyAny hplain hop).2 rfl

/-! ## Written conditions -/

section

variable {α : Type}

/-- An entry that is a form: the field of a composite, or a tag that names a test. -/
def isForm : String × Datum α → Bool
  | (name, .text op) => composites.contains name || (name = "op" && Condition.ops.contains op)
  | (name, _) => composites.contains name

theorem isForm_iff {name : String} {d : Datum α} : isForm (name, d) = true ↔
    name ∈ composites ∨ name = "op" ∧ ∃ op ∈ Condition.ops, d = .text op := by
  cases d <;> simp [isForm]

def itemsOf : Datum α → List (Datum α)
  | .seq _ items => items
  | _ => []

/-- The expressions that are written in an entry. -/
def written : String × Datum α → List (Datum α)
  | (name, d) =>
    if name = "not" ∨ name = "not_" then [d] else if name = "all_of" ∨ name = "any_of" then itemsOf d else []

/-- Each object carries exactly one form, and so do all objects that are written in it as expressions. -/
inductive OneForm : Datum α → Prop
  | object {fields : Table (Datum α)} : (fields.filter isForm).length = 1 →
    (∀ entry ∈ fields, ∀ d ∈ written entry, OneForm d) → OneForm (.map fields)

mutual

/-- The objects with the tag of a test that are written anywhere in an expression, in the order of the document. -/
def leaves : Datum α → List (Table (Datum α))
  | .map fields => leavesOfFields fields fields
  | _ => []

def leavesOfItems : List (Datum α) → List (Table (Datum α))
  | [] => []
  | d :: rest => leaves d ++ leavesOfItems rest

def leavesOfFields (object : Table (Datum α)) : List (String × Datum α) → List (Table (Datum α))
  | [] => []
  | (name, d) :: rest => leavesOfField object name d ++ leavesOfFields object rest

def leavesOfField (object : Table (Datum α)) (name : String) : Datum α → List (Table (Datum α))
  | .seq _ items => if name = "all_of" ∨ name = "any_of" then leavesOfItems items else []
  | .map fields => if name = "not" ∨ name = "not_" then leavesOfFields fields fields else []
  | .text op => if name = "op" ∧ op ∈ Condition.ops then [object] else []
  | _ => []

end

theorem leavesOfField_of_not {object : Table (Datum α)} {name : String} {d : Datum α} (h : isForm (name, d) = false) :
    leavesOfField object name d = [] := by
  cases d <;> simp_all [isForm, leavesOfField, composites]

/-- Leaves stand in forms only. -/
theorem leavesOfFields_eq (object fields : Table (Datum α)) : leavesOfFields object fields =
    (fields.filter isForm).flatMap fun entry => leavesOfField object entry.1 entry.2 := by
  induction fields with
  | nil => rfl
  | cons entry rest ih =>
    rw [leavesOfFields, ih, List.filter_cons]
    split
    · rfl
    · next hform => rw [leavesOfField_of_not (Bool.not_eq_true _ ▸ hform), List.nil_append]

/-- Where an object carries one form, its leaves are those of that form. -/
theorem leaves_of_form {fields : Table (Datum α)} (hone : (fields.filter isForm).length = 1) {name : String}
    {d : Datum α} (hget : fields.get? name = some d) (hform : isForm (name, d) = true) :
    leaves (.map fields) = leavesOfField fields name d := by
  obtain ⟨entry, hentry⟩ := List.length_eq_one_iff.1 hone
  have hmem : (name, d) ∈ fields.filter isForm := List.mem_filter.2 ⟨Table.mem_of_get? hget, hform⟩
  rw [hentry, List.mem_singleton] at hmem
  rw [leaves, leavesOfFields_eq, hentry, ← hmem, List.flatMap_singleton]

theorem leavesOfField_not {object : Table (Datum α)} {name : String} (h : name = "not" ∨ name = "not_")
    (d : Datum α) : leavesOfField object name d = leaves d := by
  have hop : name ≠ "op" := by rcases h with rfl | rfl <;> decide
  have hjoin : ¬ (name = "all_of" ∨ name = "any_of") := by rcases h with rfl | rfl <;> decide
  cases d <;> simp [leavesOfField, leaves, h, hop, hjoin]

/-- An object that names no key twice and carries one form does not name a composite only. -/
theorem not_namesComposite {fields : Table (Datum α)} (hkeys : (Table.keys fields).Nodup)
    (hone : (fields.filter isForm).length = 1) : ¬ NamesComposite fields := by
  rintro ⟨hplain, tag, htag, hop⟩
  obtain ⟨⟨name, d⟩, hentry⟩ := List.length_eq_one_iff.1 hone
  have hmem : (name, d) ∈ fields.filter isForm := hentry ▸ List.mem_singleton_self _
  obtain ⟨hmem, hform⟩ := List.mem_filter.1 hmem
  have hnew : name ∉ composites := by
    intro hname
    have hhas := Table.has_iff.2 (List.mem_map_of_mem (f := Prod.fst) hmem)
    rw [Table.has_eq_isSome, hplain name hname] at hhas
    cases hhas
  -- The one form is a tag then, and it is not the tag that the object has.
  obtain ⟨rfl, op, hmemOps, rfl⟩ := (isForm_iff.1 hform).resolve_left hnew
  have heq := List.inj_on_of_nodup_map hkeys hmem (Table.mem_of_get? hop) rfl
  cases heq
  revert hmemOps
  rcases List.mem_pair.1 htag with rfl | rfl <;> decide

end

/-- A leaf is written where a condition is read. -/
def Pairs (leaves : List (Table (Datum α))) (conditions : List (Condition α)) : Prop :=
  List.Forall₂ (fun leaf c => read (.map leaf) = .ok (.condition c)) leaves conditions

theorem pairs_leavesOfItems {items : List (Datum α)} {parts : List (Requirement α)}
    (hparts : List.Forall₂ (fun d part => read d = .ok part) items parts)
    (h : ∀ d ∈ items, ∀ part, read d = .ok part → Pairs (leaves d) part.conditions) :
    Pairs (leavesOfItems items) (conditionsOfAll parts) := by
  induction hparts with
  | nil => exact .nil
  | cons hpart _ ih =>
    obtain ⟨hd, hrest⟩ := List.forall_mem_cons.1 h
    exact List.rel_append (hd _ hpart) (ih hrest)

/-- Where each object carries one form, the conditions of what is read are the leaves that are written. -/
theorem pairs_leaves (h : OneForm d) (htidy : d.Tidy) (hread : read d = .ok r) : Pairs (leaves d) r.conditions := by
  induction h generalizing r with
  | @object fields hone _ ih =>
    have hjoin {kind : SeqKind} {items : List (Datum α)} {parts : List (Requirement α)} {name : String}
        (hname : name = "all_of" ∨ name = "any_of") (hget : fields.get? name = some (.seq kind items))
        (hparts : List.Forall₂ (fun d part => read d = .ok part) items parts) :
        Pairs (leaves (.map fields)) (conditionsOfAll parts) := by
      have hcomposite : name ∈ composites := by rcases hname with rfl | rfl <;> decide
      have hnot : ¬ (name = "not" ∨ name = "not_") := by rcases hname with rfl | rfl <;> decide
      rw [leaves_of_form hone hget (isForm_iff.2 (.inl hcomposite)), leavesOfField, if_pos hname]
      refine pairs_leavesOfItems hparts fun d hd part => ih _ (Table.mem_of_get? hget) d ?_ ?_
      · rw [written, if_neg hnot, if_pos hname]
        exact hd
      · exact (htidy.2.get? hget).mem d hd
    have hnot {d : Datum α} {part : Requirement α} {name : String} (hname : name = "not" ∨ name = "not_")
        (hget : fields.get? name = some d) (hpart : read d = .ok part) :
        Pairs (leaves (.map fields)) (Requirement.not part).conditions := by
      have hcomposite : name ∈ composites := by rcases hname with rfl | rfl <;> decide
      rw [leaves_of_form hone hget (isForm_iff.2 (.inl hcomposite)), leavesOfField_not hname]
      refine ih (r := part) _ (Table.mem_of_get? hget) d ?_ (htidy.2.get? hget) hpart
      rw [written, if_pos hname]
      exact List.mem_singleton_self d
    cases read_iff_means.1 hread with
    | allOf hall hparts => exact hjoin (.inl rfl) hall hparts
    | anyOf _ hany hparts => exact hjoin (.inr rfl) hany hparts
    | not _ _ hget hpart => exact hnot (.inl rfl) hget hpart
    | not_ _ _ _ hget hpart => exact hnot (.inr rfl) hget hpart
    | condition _ hop hmem _ _ =>
      rw [leaves_of_form hone hop (isForm_iff.2 (.inr ⟨rfl, _, hmem, rfl⟩)), leavesOfField, if_pos ⟨rfl, hmem⟩]
      exact .cons hread .nil
    | emptyAll hplain hop => exact absurd ⟨hplain, _, by simp, hop⟩ (not_namesComposite htidy.1 hone)
    | emptyAny hplain hop => exact absurd ⟨hplain, _, by simp, hop⟩ (not_namesComposite htidy.1 hone)

/-! ## The whole -/

theorem Means.carries (h : Means fields r) : fields.filter isForm ≠ [] ∨ NamesComposite fields := by
  have hform {name : String} {d : Datum α} (hget : fields.get? name = some d)
      (hmem : name ∈ composites ∨ name = "op" ∧ ∃ op ∈ Condition.ops, d = .text op) :
      fields.filter isForm ≠ [] :=
    List.ne_nil_of_mem (List.mem_filter.2 ⟨Table.mem_of_get? hget, isForm_iff.2 hmem⟩)
  cases h with
  | allOf hget _ => exact .inl (hform hget (.inl (by decide)))
  | anyOf _ hget _ => exact .inl (hform hget (.inl (by decide)))
  | not _ _ hget _ => exact .inl (hform hget (.inl (by decide)))
  | not_ _ _ _ hget _ => exact .inl (hform hget (.inl (by decide)))
  | condition _ hget hmem _ _ => exact .inl (hform hget (.inr ⟨rfl, _, hmem, rfl⟩))
  | emptyAll hplain hop => exact .inr ⟨hplain, _, by simp, hop⟩
  | emptyAny hplain hop => exact .inr ⟨hplain, _, by simp, hop⟩

/-- What is known of an object that is read as a requirement. -/
structure Understood (fields : Table (Datum α)) (r : Requirement α) : Prop where
  /-- The object carries a form, unless its tag names an empty composite. -/
  form : fields.filter isForm ≠ [] ∨ NamesComposite fields
  /-- Where each object carries one form only, all leaves that are written are conditions of the requirement. -/
  kept : (Datum.map fields).Tidy → OneForm (.map fields) → Pairs (leaves (.map fields)) r.conditions
  /-- The requirement looks at nothing but what its conditions read. -/
  looks : ∀ s t : State α, (∀ x ∈ r.subjects, s.about x = t.about x) → r.evaluate s = r.evaluate t
  /-- A condition that misses a part is false in every state, and one that misses none takes both values just if
  the amounts that it compares with split amounts. -/
  values : ∀ c ∈ r.conditions, (c.missing ≠ [] → ∀ s : State α, (c.test s).1 = false) ∧
    (c.missing = [] → (c.Varies ↔ c.Splits))
  /-- A condition with a subject of its own matters just where it takes both values and some state leaves the value
  open.  Where all subjects are different, each part beside it may leave it open in a state of its own. -/
  matter : ∀ k c, r.conditions[k]? = some c → ∃ beside, Descent r k c beside ∧
    (Alone c beside → (r.Influences k ↔ c.Varies ∧ ∃ s : State α, Open s beside)) ∧
    (r.Apart → (r.Influences k ↔ c.Varies ∧ ∀ entry ∈ beside, entry.2.Takes !entry.1))
  /-- Where no composite is empty, all subjects are different and all conditions take both values, they all
  matter. -/
  free : Free r → ∀ k < r.conditions.length, r.Influences k

/-- An object is read just where its first form can be, and that form alone is what it says. -/
theorem read_understood :
    (read (.map fields) = .ok r ↔ Means fields r) ∧ (read (.map fields) = .ok r → Understood fields r) := by
  refine ⟨read_iff_means, fun hread => ?_⟩
  exact {
    form := (read_iff_means.1 hread).carries
    kept := fun htidy hone => pairs_leaves hone htidy hread
    looks := fun _ _ => evaluate_congr_subjects
    values := fun _ _ => ⟨Condition.test_of_incomplete, Condition.varies_iff_splits⟩
    matter := fun k c hc => by
      obtain ⟨beside, hdescent⟩ := exists_descent hc
      exact ⟨beside, hdescent, hdescent.influences_iff, hdescent.influences_iff_takes⟩
    free := fun hfree _ hk => hfree.influences hk }

/-- A condition on a flag. -/
def litLeaf : Table (Datum Amount) := [("op", .text "flag_is"), ("flag", .text "lit"), ("value", .bool true)]

def lit : Requirement Amount := .condition (.flagIs (some "lit") (some true))

theorem oneForm_leaf {fields : Table (Datum Amount)} (hone : (fields.filter isForm).length = 1)
    (h : fields.flatMap written = []) : OneForm (.map fields) :=
  .object hone fun entry hentry _ hd => absurd (h ▸ List.mem_flatMap.2 ⟨entry, hentry, hd⟩) List.not_mem_nil

theorem oneForm_join {name : String} (hname : name ∈ ["all_of", "any_of"]) {items : List (Datum Amount)}
    (h : ∀ d ∈ items, OneForm d) : OneForm (.map [(name, .list items)]) := by
  rcases List.mem_pair.1 hname with rfl | rfl
  all_goals
    refine .object rfl fun entry hentry d hd => ?_
    obtain rfl := List.mem_singleton.1 hentry
    exact h d hd

theorem oneForm_lit : OneForm (.map litLeaf) := oneForm_leaf (by decide) rfl

def gateFields : Table (Datum Amount) := [("all_of", .list [.map litLeaf])]

theorem oneForm_gate : OneForm (.map gateFields) :=
  oneForm_join List.mem_cons_self (List.forall_mem_singleton.2 oneForm_lit)

theorem tidy_gate : (Datum.map gateFields).Tidy := by
  simp [gateFields, litLeaf, Datum.Tidy, Datum.TidyFields, Datum.TidyItems, Datum.list, Table.keys]

theorem lit_varies : (Condition.flagIs (some "lit") (some true) : Condition Amount).Varies :=
  Condition.varies_iff.2 ⟨rfl, trivial⟩

theorem lit_filled : lit.Filled := by
  rw [lit, Filled]
  trivial

theorem free_gate : Free (.allOf [lit]) where
  filled := DecidedBy.allOf.filled.2 ⟨List.cons_ne_nil _ _, List.forall_mem_singleton.2 lit_filled⟩
  apart := List.nodup_singleton _
  varies := List.forall_mem_singleton.2 lit_varies

theorem gate_understood : read (.map gateFields) = .ok (.allOf [lit]) ∧ Understood gateFields (.allOf [lit]) ∧
    Pairs (leaves (.map gateFields)) [.flagIs (some "lit") (some true)] ∧ (allOf [lit]).Influences 0 := by
  have hread : read (.map gateFields) = .ok (.allOf [lit]) := rfl
  have hunderstood := (read_understood (r := .allOf [lit])).2 hread
  exact ⟨hread, hunderstood, hunderstood.kept tidy_gate oneForm_gate, hunderstood.free free_gate 0 (by decide)⟩

/-- An empty conjunction and a disjunction in one object. -/
def doubleFields : Table (Datum Amount) := [("all_of", .list []), ("any_of", .list [.map litLeaf])]

/-- The name of a composite, and no composite. -/
def bareFields : Table (Datum Amount) := [("op", .text "all_of")]

/-- A conjunction of an empty disjunction and a condition. -/
def shutFields : Table (Datum Amount) := [("all_of", .list [.map [("any_of", .list [])], .map litLeaf])]

/-- A conjunction of an incomplete condition and a complete one. -/
def gapFields : Table (Datum Amount) := [("all_of", .list [.map [("op", .text "flag_is")], .map litLeaf])]

def gap : Requirement Amount := .allOf [.condition (.flagIs none none), lit]

def darkLeaf : Table (Datum Amount) := [("op", .text "flag_is"), ("flag", .text "lit"), ("value", .bool false)]

/-- A disjunction of a condition and its opposite. -/
def eitherFields : Table (Datum Amount) := [("any_of", .list [.map litLeaf, .map darkLeaf])]

def either : Requirement Amount := .anyOf [lit, .condition (.flagIs (some "lit") (some false))]

/-- What has the same value in all states is influenced by nothing. -/
theorem not_influences_of_const {r : Requirement Amount} {b : Bool} (h : ∀ s, (r.evaluate s).1 = b) (k : Nat) :
    ¬ r.Influences k := by
  rintro ⟨_, s, t, -, -, hne⟩
  exact hne ((h s).trans (h t).symm)

/-- An object with two forms is read, and the condition that is written in the second is lost; and so is an object
without a form.  And where there is one form only, conditions need not matter: beside an empty disjunction, beside an
incomplete condition, or where they are about the same. -/
theorem double_read : ((doubleFields.filter isForm).length = 2 ∧ leaves (.map doubleFields) = [litLeaf] ∧
      read (.map doubleFields) = .ok (.allOf []) ∧ (allOf [] : Requirement Amount).conditions = []) ∧
    (bareFields.filter isForm = [] ∧ read (.map bareFields) = .ok (.allOf [])) ∧
    (OneForm (.map shutFields) ∧ read (.map shutFields) = .ok (.allOf [.anyOf [], lit]) ∧
      ¬ (allOf [.anyOf [], lit]).Influences 0) ∧
    (OneForm (.map gapFields) ∧ read (.map gapFields) = .ok gap ∧ ¬ gap.Influences 0 ∧ ¬ gap.Influences 1) ∧
    (OneForm (.map eitherFields) ∧ read (.map eitherFields) = .ok either ∧
      ¬ either.Influences 0 ∧ ¬ either.Influences 1) := by
  have hshut (s : State Amount) : ((allOf [.anyOf [], lit]).evaluate s).1 = false :=
    (DecidedBy.allOf.evaluate s _).2 ⟨.anyOf [], List.mem_cons_self, rfl⟩
  have hgap (s : State Amount) : (gap.evaluate s).1 = false :=
    (DecidedBy.allOf.evaluate s _).2 ⟨.condition (.flagIs none none), List.mem_cons_self, rfl⟩
  have heither (s : State Amount) : (either.evaluate s).1 = true := by
    refine (DecidedBy.anyOf.evaluate s _).2 ?_
    cases hflag : s.flag "lit" with
    | true => exact ⟨lit, List.mem_cons_self, decide_eq_true hflag⟩
    | false => exact ⟨_, List.mem_cons_of_mem _ List.mem_cons_self, decide_eq_true hflag⟩
  refine ⟨⟨by decide, rfl, rfl, rfl⟩, ⟨by decide, rfl⟩, ⟨?_, rfl, not_influences_of_const hshut 0⟩,
    ⟨?_, rfl, not_influences_of_const hgap 0, not_influences_of_const hgap 1⟩,
    ?_, rfl, not_influences_of_const heither 0, not_influences_of_const heither 1⟩
  · refine oneForm_join List.mem_cons_self (List.forall_mem_cons.2 ⟨?_, List.forall_mem_singleton.2 oneForm_lit⟩)
    exact oneForm_join (by decide) (List.forall_mem_nil _)
  · refine oneForm_join List.mem_cons_self (List.forall_mem_cons.2 ⟨?_, List.forall_mem_singleton.2 oneForm_lit⟩)
    exact oneForm_leaf (by decide) rfl
  · refine oneForm_join (by decide) (List.forall_mem_cons.2 ⟨oneForm_lit, List.forall_mem_singleton.2 ?_⟩)
    exact oneForm_leaf (by decide) rfl

end Requirement

end StoryRules
