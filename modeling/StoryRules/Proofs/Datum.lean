import StoryRules.Datum.Plain
import StoryRules.Proofs.Step

/-!
# Values that last

A value lasts if a snapshot keeps it as it is: it is its own plain copy, and every number in it is finite.
The plain copy of a value with finite numbers lasts, whatever sequences and records it was made of, and a
value without bytes has a plain copy.  With bytes there is one just if all of them encode texts.  A plain copy
that is copied again stays as it is, but of its numbers a snapshot keeps only the finite ones.

    d.plain = .ok e → d.finitePart = d → e.Lasts      (lasts_of_plain)
    d.plain = .ok e → e.plain = .ok e ∧ (e.finitePart = e ↔ d.finitePart = d)
-/

namespace StoryRules.Datum

variable {α : Type}

/-! ## Values without bytes -/

mutual

/-- A value that no bytes are in, as it is with what JSON texts hold. -/
def Byteless : Datum α → Prop
  | .bytes _ => False
  | .seq _ items => BytelessItems items
  | .map fields => BytelessFields fields
  | .record _ fields => BytelessFields fields
  | _ => True

def BytelessItems : List (Datum α) → Prop
  | [] => True
  | d :: rest => d.Byteless ∧ BytelessItems rest

def BytelessFields : List (String × Datum α) → Prop
  | [] => True
  | (_, d) :: rest => d.Byteless ∧ BytelessFields rest

end

mutual

theorem plain_of_byteless {d : Datum α} (h : d.Byteless) : ∃ e, d.plain = .ok e := by
  cases d with
  | null | bool b | num x | text s => exact ⟨_, rfl⟩
  | bytes bs => exact absurd h (by simp [Byteless])
  | seq kind items =>
    obtain ⟨kept, hkept⟩ := plainItems_of_byteless (by simpa [Byteless] using h)
    rw [plain, hkept]
    exact ⟨_, rfl⟩
  | map fields | record kind fields =>
    obtain ⟨kept, hkept⟩ := plainFields_of_byteless (by simpa [Byteless] using h)
    rw [plain, hkept]
    exact ⟨_, rfl⟩

theorem plainItems_of_byteless {items : List (Datum α)} (h : BytelessItems items) :
    ∃ kept, plainItems items = .ok kept := by
  cases items with
  | nil => exact ⟨_, rfl⟩
  | cons d rest =>
    rw [BytelessItems] at h
    obtain ⟨e, he⟩ := plain_of_byteless h.1
    obtain ⟨kept, hkept⟩ := plainItems_of_byteless h.2
    rw [plainItems, he, hkept]
    exact ⟨_, rfl⟩

theorem plainFields_of_byteless {fields : List (String × Datum α)} (h : BytelessFields fields) :
    ∃ kept, plainFields fields = .ok kept := by
  cases fields with
  | nil => exact ⟨_, rfl⟩
  | cons field rest =>
    obtain ⟨key, d⟩ := field
    rw [BytelessFields] at h
    obtain ⟨e, he⟩ := plain_of_byteless h.1
    obtain ⟨kept, hkept⟩ := plainFields_of_byteless h.2
    rw [plainFields, he, hkept]
    exact ⟨_, rfl⟩

end

/-! ## Bytes that are texts -/

mutual

/-- All bytes in a value encode texts. -/
def Decodable : Datum α → Prop
  | .bytes bs => (String.fromUTF8? ⟨bs.toArray⟩).isSome = true
  | .seq _ items => DecodableItems items
  | .map fields => DecodableFields fields
  | .record _ fields => DecodableFields fields
  | _ => True

def DecodableItems : List (Datum α) → Prop
  | [] => True
  | d :: rest => d.Decodable ∧ DecodableItems rest

def DecodableFields : List (String × Datum α) → Prop
  | [] => True
  | (_, d) :: rest => d.Decodable ∧ DecodableFields rest

end

mutual

theorem plain_cases (d : Datum α) :
    (d.Decodable ∧ ∃ e, d.plain = .ok e) ∨ ¬d.Decodable ∧ d.plain = .error .undecodable := by
  cases d with
  | null | bool b | num x | text s => exact .inl ⟨trivial, _, rfl⟩
  | bytes bs =>
    rw [plain, Decodable]
    cases String.fromUTF8? ⟨bs.toArray⟩ with
    | some s => exact .inl ⟨rfl, _, rfl⟩
    | none => exact .inr ⟨Bool.false_ne_true, rfl⟩
  | seq kind items =>
    rw [plain, Decodable]
    rcases plainItems_cases items with ⟨hdecodable, kept, hkept⟩ | ⟨hbad, hfault⟩
    · exact .inl ⟨hdecodable, _, by rw [hkept]; rfl⟩
    · exact .inr ⟨hbad, by rw [hfault]; rfl⟩
  | map fields | record kind fields =>
    rw [plain, Decodable]
    rcases plainFields_cases fields with ⟨hdecodable, kept, hkept⟩ | ⟨hbad, hfault⟩
    · exact .inl ⟨hdecodable, _, by rw [hkept]; rfl⟩
    · exact .inr ⟨hbad, by rw [hfault]; rfl⟩

theorem plainItems_cases (items : List (Datum α)) :
    (DecodableItems items ∧ ∃ kept, plainItems items = .ok kept) ∨
      ¬DecodableItems items ∧ plainItems items = .error .undecodable := by
  cases items with
  | nil => exact .inl ⟨trivial, _, rfl⟩
  | cons d rest =>
    rw [plainItems, DecodableItems]
    rcases plain_cases d with ⟨hd, e, he⟩ | ⟨hbad, hfault⟩
    · rw [he]
      rcases plainItems_cases rest with ⟨hrest, kept, hkept⟩ | ⟨hbad, hfault⟩
      · exact .inl ⟨⟨hd, hrest⟩, _, by rw [hkept]; rfl⟩
      · exact .inr ⟨fun h => hbad h.2, by rw [hfault]; rfl⟩
    · exact .inr ⟨fun h => hbad h.1, by rw [hfault]; rfl⟩

theorem plainFields_cases (fields : List (String × Datum α)) :
    (DecodableFields fields ∧ ∃ kept, plainFields fields = .ok kept) ∨
      ¬DecodableFields fields ∧ plainFields fields = .error .undecodable := by
  cases fields with
  | nil => exact .inl ⟨trivial, _, rfl⟩
  | cons field rest =>
    obtain ⟨key, d⟩ := field
    rw [plainFields, DecodableFields]
    rcases plain_cases d with ⟨hd, e, he⟩ | ⟨hbad, hfault⟩
    · rw [he]
      rcases plainFields_cases rest with ⟨hrest, kept, hkept⟩ | ⟨hbad, hfault⟩
      · exact .inl ⟨⟨hd, hrest⟩, _, by rw [hkept]; rfl⟩
      · exact .inr ⟨fun h => hbad h.2, by rw [hfault]; rfl⟩
    · exact .inr ⟨fun h => hbad h.1, by rw [hfault]; rfl⟩

end

/-- A value has a plain copy just if all bytes in it encode texts. -/
theorem plain_isOk_iff {d : Datum α} : (∃ e, d.plain = .ok e) ↔ d.Decodable := by
  rcases plain_cases d with ⟨hdecodable, e, he⟩ | ⟨hbad, hfault⟩
  · exact ⟨fun _ => hdecodable, fun _ => ⟨e, he⟩⟩
  · refine ⟨?_, fun h => absurd h hbad⟩
    rintro ⟨e, he⟩
    rw [hfault] at he
    cases he

/-! ## Copies -/

theorem plain_bytes_ok {bs : List UInt8} {e : Datum α} (h : (bytes bs).plain = .ok e) :
    ∃ s, e = .text s := by
  rw [plain] at h
  split at h
  · next s hs => exact ⟨s, (Except.ok.inj h).symm⟩
  · cases h

theorem plain_seq_ok {kind : SeqKind} {items : List (Datum α)} {e : Datum α}
    (h : (seq kind items).plain = .ok e) : ∃ kept, plainItems items = .ok kept ∧ e = .list kept := by
  rw [plain] at h
  obtain ⟨kept, hitems, hkept⟩ := bind_eq_ok.1 h
  exact ⟨kept, hitems, (Except.ok.inj hkept).symm⟩

theorem plain_map_ok {fields : Table (Datum α)} {e : Datum α} (h : (map fields).plain = .ok e) :
    ∃ kept, plainFields fields = .ok kept ∧ e = .map kept := by
  rw [plain] at h
  obtain ⟨kept, hfields, hkept⟩ := bind_eq_ok.1 h
  exact ⟨kept, hfields, (Except.ok.inj hkept).symm⟩

theorem plain_record_ok {kind : RecordKind} {fields : Table (Datum α)} {e : Datum α}
    (h : (record kind fields).plain = .ok e) : ∃ kept, plainFields fields = .ok kept ∧ e = .map kept :=
  plain_map_ok (by rw [← h, plain, plain])

theorem plainItems_cons_ok {d : Datum α} {rest kept : List (Datum α)} (h : plainItems (d :: rest) = .ok kept) :
    ∃ e others, d.plain = .ok e ∧ plainItems rest = .ok others ∧ kept = e :: others := by
  rw [plainItems] at h
  obtain ⟨e, hd, h⟩ := bind_eq_ok.1 h
  obtain ⟨others, hrest, hkept⟩ := bind_eq_ok.1 h
  exact ⟨e, others, hd, hrest, (Except.ok.inj hkept).symm⟩

theorem plainFields_cons_ok {key : String} {d : Datum α} {rest kept : Table (Datum α)}
    (h : plainFields ((key, d) :: rest) = .ok kept) :
    ∃ e others, d.plain = .ok e ∧ plainFields rest = .ok others ∧ kept = (key, e) :: others := by
  rw [plainFields] at h
  obtain ⟨e, hd, h⟩ := bind_eq_ok.1 h
  obtain ⟨others, hrest, hkept⟩ := bind_eq_ok.1 h
  exact ⟨e, others, hd, hrest, (Except.ok.inj hkept).symm⟩

mutual

/-- A plain copy is its own plain copy. -/
theorem plain_plain {d e : Datum α} (h : d.plain = .ok e) : e.plain = .ok e := by
  cases d with
  | null | bool b | num x | text s =>
    rw [plain] at h
    cases h
    rfl
  | bytes bs =>
    obtain ⟨s, rfl⟩ := plain_bytes_ok h
    rfl
  | seq kind items =>
    obtain ⟨kept, hitems, rfl⟩ := plain_seq_ok h
    rw [list, plain, plainItems_plainItems hitems]
    rfl
  | map fields =>
    obtain ⟨kept, hfields, rfl⟩ := plain_map_ok h
    rw [plain, plainFields_plainFields hfields]
    rfl
  | record kind fields =>
    obtain ⟨kept, hfields, rfl⟩ := plain_record_ok h
    rw [plain, plainFields_plainFields hfields]
    rfl

theorem plainItems_plainItems {items kept : List (Datum α)} (h : plainItems items = .ok kept) :
    plainItems kept = .ok kept := by
  cases items with
  | nil =>
    cases h
    rfl
  | cons d rest =>
    obtain ⟨e, others, hd, hrest, rfl⟩ := plainItems_cons_ok h
    rw [plainItems, plain_plain hd, plainItems_plainItems hrest]
    rfl

theorem plainFields_plainFields {fields kept : Table (Datum α)} (h : plainFields fields = .ok kept) :
    plainFields kept = .ok kept := by
  cases fields with
  | nil =>
    cases h
    rfl
  | cons field rest =>
    obtain ⟨key, d⟩ := field
    obtain ⟨e, others, hd, hrest, rfl⟩ := plainFields_cons_ok h
    rw [plainFields, plain_plain hd, plainFields_plainFields hrest]
    rfl

end

/-! ## Numbers without a value -/

variable [Number α]

mutual

theorem finitePart_finitePart (d : Datum α) : d.finitePart.finitePart = d.finitePart := by
  cases d with
  | null | bool b | text s | bytes bs => rfl
  | num x =>
    rw [finitePart]
    split
    · next h => rw [finitePart, if_pos h]
    · rfl
  | seq kind items => rw [finitePart, finitePart, finiteItems_finiteItems]
  | map fields | record kind fields => rw [finitePart, finitePart, finiteFields_finiteFields]

theorem finiteItems_finiteItems (items : List (Datum α)) :
    finiteItems (finiteItems items) = finiteItems items := by
  cases items with
  | nil => rfl
  | cons d rest => rw [finiteItems, finiteItems, finitePart_finitePart, finiteItems_finiteItems]

theorem finiteFields_finiteFields (fields : List (String × Datum α)) :
    finiteFields (finiteFields fields) = finiteFields fields := by
  cases fields with
  | nil => rfl
  | cons field rest => rw [finiteFields, finiteFields, finitePart_finitePart, finiteFields_finiteFields]

end

mutual

/-- Numbers without a value are taken out of the plain copy just as they are taken out before. -/
theorem plain_finitePart {d e : Datum α} (h : d.plain = .ok e) : d.finitePart.plain = .ok e.finitePart := by
  cases d with
  | null | bool b | text s =>
    cases h
    rfl
  | num x =>
    cases h
    rw [finitePart]
    split <;> rfl
  | bytes bs =>
    obtain ⟨s, rfl⟩ := plain_bytes_ok h
    exact h
  | seq kind items =>
    obtain ⟨kept, hitems, rfl⟩ := plain_seq_ok h
    rw [finitePart, plain, plainItems_finiteItems hitems]
    rfl
  | map fields =>
    obtain ⟨kept, hfields, rfl⟩ := plain_map_ok h
    rw [finitePart, plain, plainFields_finiteFields hfields]
    rfl
  | record kind fields =>
    obtain ⟨kept, hfields, rfl⟩ := plain_record_ok h
    rw [finitePart, finitePart, plain, plainFields_finiteFields hfields]
    rfl

theorem plainItems_finiteItems {items kept : List (Datum α)} (h : plainItems items = .ok kept) :
    plainItems (finiteItems items) = .ok (finiteItems kept) := by
  cases items with
  | nil =>
    cases h
    rfl
  | cons d rest =>
    obtain ⟨e, others, hd, hrest, rfl⟩ := plainItems_cons_ok h
    rw [finiteItems, plainItems, plain_finitePart hd, plainItems_finiteItems hrest]
    rfl

theorem plainFields_finiteFields {fields kept : Table (Datum α)} (h : plainFields fields = .ok kept) :
    plainFields (finiteFields fields) = .ok (finiteFields kept) := by
  cases fields with
  | nil =>
    cases h
    rfl
  | cons field rest =>
    obtain ⟨key, d⟩ := field
    obtain ⟨e, others, hd, hrest, rfl⟩ := plainFields_cons_ok h
    rw [finiteFields, plainFields, plain_finitePart hd, plainFields_finiteFields hrest]
    rfl

end

mutual

/-- All numbers in a plain copy have values just if all those in the original have. -/
theorem finitePart_eq_iff {d e : Datum α} (h : d.plain = .ok e) :
    e.finitePart = e ↔ d.finitePart = d := by
  cases d with
  | null | bool b | num x | text s =>
    cases h
    rfl
  | bytes bs =>
    obtain ⟨s, rfl⟩ := plain_bytes_ok h
    exact iff_of_true rfl rfl
  | seq kind items =>
    obtain ⟨kept, hitems, rfl⟩ := plain_seq_ok h
    simp only [list, finitePart, seq.injEq, true_and, finiteItems_eq_iff hitems]
  | map fields =>
    obtain ⟨kept, hfields, rfl⟩ := plain_map_ok h
    simp only [finitePart, map.injEq, finiteFields_eq_iff hfields]
  | record kind fields =>
    obtain ⟨kept, hfields, rfl⟩ := plain_record_ok h
    simp only [finitePart, map.injEq, record.injEq, true_and, finiteFields_eq_iff hfields]

theorem finiteItems_eq_iff {items kept : List (Datum α)} (h : plainItems items = .ok kept) :
    finiteItems kept = kept ↔ finiteItems items = items := by
  cases items with
  | nil =>
    cases h
    rfl
  | cons d rest =>
    obtain ⟨e, others, hd, hrest, rfl⟩ := plainItems_cons_ok h
    rw [finiteItems, finiteItems, List.cons.injEq, List.cons.injEq, finitePart_eq_iff hd,
      finiteItems_eq_iff hrest]

theorem finiteFields_eq_iff {fields kept : Table (Datum α)} (h : plainFields fields = .ok kept) :
    finiteFields kept = kept ↔ finiteFields fields = fields := by
  cases fields with
  | nil =>
    cases h
    rfl
  | cons field rest =>
    obtain ⟨key, d⟩ := field
    obtain ⟨e, others, hd, hrest, rfl⟩ := plainFields_cons_ok h
    simp only [finiteFields, List.cons.injEq, Prod.mk.injEq, true_and, finitePart_eq_iff hd,
      finiteFields_eq_iff hrest]

end

/-! ## Values that last -/

/-- A snapshot keeps a value as it is. -/
def Lasts (d : Datum α) : Prop := d.plain = .ok d ∧ d.finitePart = d

theorem lasts_null : (null : Datum α).Lasts := ⟨rfl, rfl⟩

theorem lasts_list {items : List (Datum α)} (hplain : plainItems items = .ok items)
    (hfinite : finiteItems items = items) : (Datum.list items).Lasts := by
  constructor
  · rw [list, plain, hplain]
    rfl
  · rw [list, finitePart, hfinite]

theorem lasts_map {fields : Table (Datum α)} (hplain : plainFields fields = .ok fields)
    (hfinite : finiteFields fields = fields) : (Datum.map fields).Lasts := by
  constructor
  · rw [plain, hplain]
    rfl
  · rw [finitePart, hfinite]

theorem lasts_of_plain {d e : Datum α} (h : d.plain = .ok e) (hfinite : d.finitePart = d) : e.Lasts :=
  ⟨plain_plain h, (finitePart_eq_iff h).2 hfinite⟩

/-- Whatever numbers are in a value, what a snapshot keeps of it lasts. -/
theorem lasts_finitePart {d e : Datum α} (h : d.plain = .ok e) : e.finitePart.Lasts :=
  ⟨plain_finitePart (plain_plain h), finitePart_finitePart e⟩

end StoryRules.Datum
