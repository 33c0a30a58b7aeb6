import StoryRules.Datum.Plain
import StoryRules.Proofs.Json.Escape
import StoryRules.Proofs.Json.Numeral
import StoryRules.Proofs.Table

/-!
# JSON texts are read back

Whatever the layout, the text of a value is read as the value again: blanks are skipped, a numeral, a text or
a word ends where it was written to end, and the names of an object are kept in order.  Numbers that are infinite
or none have words of their own and are read back too.

    d.Printable → Json.read (Json.print layout d) = .ok d      (read_print)
-/

namespace StoryRules

namespace Datum

mutual

/-- A value that a JSON text can hold: no bytes and records, lists as the only sequences, and each name of a
field once. -/
def Writable : Datum Amount → Prop
  | .null => True
  | .bool _ => True
  | .num x => x.Writable
  | .text _ => True
  | .bytes _ => False
  | .seq kind items => kind = .list ∧ WritableItems items
  | .map fields => (Table.keys fields).Nodup ∧ WritableFields fields
  | .record _ _ => False

def WritableItems : List (Datum Amount) → Prop
  | [] => True
  | d :: rest => d.Writable ∧ WritableItems rest

def WritableFields : List (String × Datum Amount) → Prop
  | [] => True
  | (_, d) :: rest => d.Writable ∧ WritableFields rest

end

/-- A value that a JSON text can hold, but for numbers that it has words for. -/
def Printable (d : Datum Amount) : Prop := d.finitePart.Writable

def PrintableItems (items : List (Datum Amount)) : Prop := WritableItems (finiteItems items)

def PrintableFields (fields : List (String × Datum Amount)) : Prop := WritableFields (finiteFields fields)

theorem isFinite_float (x : Float) : Number.isFinite (Amount.float x) = x.isFinite := by
  have hnan : x.isNaN = x.toModel.unpack.isNaN := rfl
  have hinf : x.isInf = x.toModel.unpack.isInf := rfl
  have hfinite : x.isFinite = x.toModel.unpack.isFinite := rfl
  have hnone : (x.isNaN || x.isInf) = !x.isFinite := by
    rw [hnan, hinf, hfinite]
    cases x.toModel.unpack <;> rfl
  have hwhole : Number.toWhole (Amount.float x) = Amount.wholeOfFloat x := rfl
  unfold Number.isFinite
  rw [hwhole]
  unfold Amount.wholeOfFloat
  rw [hnone]
  cases x.isFinite with
  | false => rfl
  | true =>
    rw [if_neg (by decide)]
    dsimp only
    split_ifs <;> rfl

theorem printable_num {x : Amount} : (num x).Printable ↔ x.Printable := by
  unfold Printable
  rw [finitePart]
  cases x with
  | int n => exact Iff.rfl
  | float x =>
    rw [isFinite_float]
    refine iff_of_true ?_ trivial
    split
    · next h => exact h
    · trivial

theorem keys_finiteFields (fields : Table (Datum Amount)) : Table.keys (finiteFields fields) = Table.keys fields := by
  induction fields with
  | nil => rfl
  | cons field rest ih => exact congrArg (field.1 :: ·) ih

end Datum

namespace Json

/-! ## Blanks -/

def Blank (cs : List Char) : Prop := ∀ c ∈ cs, isSpace c = true

theorem skipSpace_blank {cs rest : List Char} (hcs : Blank cs)
    (hrest : ∀ c ∈ rest.head?, isSpace c = false) (offset : ℕ) :
    Cursor.skipSpace ⟨cs ++ rest, offset⟩ = ⟨rest, offset + cs.length⟩ := by
  have htake : (cs ++ rest).takeWhile isSpace = cs := by
    rw [List.takeWhile_append_of_pos hcs]
    cases rest with
    | nil => simp
    | cons c rest => simp [hrest c rfl]
  unfold Cursor.skipSpace
  dsimp only
  rw [htake]
  exact skip_append cs rest offset

theorem skipSpace_none {rest : List Char} (hrest : ∀ c ∈ rest.head?, isSpace c = false) (offset : ℕ) :
    Cursor.skipSpace ⟨rest, offset⟩ = ⟨rest, offset⟩ := by
  have hnone : Blank [] := List.forall_mem_nil _
  exact skipSpace_blank hnone hrest offset

theorem blank_newline (layout : Layout) (level : ℕ) : Blank (layout.newline level) := by
  unfold Layout.newline
  cases layout with
  | none => exact List.forall_mem_nil _
  | some width =>
    intro c hc
    rcases List.mem_cons.1 hc with rfl | hc
    · rfl
    · rw [List.eq_of_mem_replicate hc]
      rfl

theorem separator_eq (layout : Layout) (level : ℕ) :
    ∃ gap, Blank gap ∧ layout.separator level = ',' :: gap := by
  cases layout with
  | none => exact ⟨[' '], List.forall_mem_singleton.2 rfl, rfl⟩
  | some width => exact ⟨_, blank_newline (some width) level, rfl⟩

/-! ## Texts and words -/

theorem textPoints_encode (s rest : List Char) (offset : ℕ) :
    ∃ o, textPoints (Cursor.skip 1 ⟨encode s ++ rest, offset⟩) = .ok (s.map Char.toNat, ⟨rest, o⟩) := by
  have hskip : (Cursor.skip 1 ⟨encode s ++ rest, offset⟩) =
      ⟨s.flatMap escapeChar ++ '"' :: rest, offset + 1⟩ := by
    simp [Cursor.skip, encode]
  unfold textPoints
  rw [hskip]
  dsimp only
  rw [decode_encode]
  exact ⟨_, rfl⟩

theorem map_ofNat_toNat (s : List Char) : (s.map Char.toNat).map Char.ofNat = s := by
  rw [List.map_map]
  conv_rhs => rw [← List.map_id s]
  exact List.map_congr_left fun c _ => Char.ofNat_toNat c

theorem textDatum_chars (s : String) : textDatum (s.toList.map Char.toNat) = .text s := by
  have hnone : (s.toList.map Char.toNat).any isSurrogate = false := by
    rw [List.any_eq_false]
    intro point hpoint
    obtain ⟨c, -, rfl⟩ := List.mem_map.1 hpoint
    rw [isSurrogate, Bool.and_eq_true, decide_eq_true_eq, decide_eq_true_eq]
    rcases toNat_not_surrogate c with hc | hc <;> omega
  unfold textDatum
  rw [hnone, map_ofNat_toNat, String.ofList_toList]
  rfl

/-! ## First characters -/

/-- Blanks, the ends of a list and an object, and the byte order mark. -/
def nonStarters : List Char := [' ', '\t', '\n', '\r', ']', '}', Char.ofNat 0xFEFF]

/-- A text begins as a value or a name does. -/
def Starts (cs : List Char) : Prop := ∃ c rest, cs = c :: rest ∧ c ∉ nonStarters

theorem Starts.head {text : List Char} (h : Starts text) : ∀ c ∈ text.head?, isSpace c = false := by
  obtain ⟨c, rest, rfl, hc⟩ := h
  rintro _ ⟨⟩
  unfold isSpace
  simp only [nonStarters, List.mem_cons, not_or] at hc
  simp [hc]

theorem Starts.head_ne {text : List Char} (h : Starts text) {c : Char} (hc : c ∈ nonStarters) :
    text.head? ≠ some c := by
  obtain ⟨first, rest, rfl, hfirst⟩ := h
  rintro ⟨⟩
  exact hfirst hc

theorem Starts.append {text : List Char} (h : Starts text) (rest : List Char) : Starts (text ++ rest) := by
  obtain ⟨c, cs, rfl, hc⟩ := h
  exact ⟨c, cs ++ rest, rfl, hc⟩

theorem digit_ne {c x : Char} (hc : c.isDigit = true) (hx : x.isDigit = false) : c ≠ x := by
  rintro rfl
  rw [hx] at hc
  cases hc

/-- A numeral begins with a minus or a digit. -/
theorem Numeral.starts {text : List Char} {d : Datum Amount} {negative : Bool} {l : Literal}
    (h : Numeral text d negative l) : ∃ c rest, text = c :: rest ∧ (c = '-' ∨ c.isDigit = true) := by
  obtain ⟨c, cs, hwhole, hc⟩ := h.wellFormed.first
  rw [h.chars]
  unfold Literal.chars
  rw [hwhole]
  cases negative with
  | false => exact ⟨c, _, rfl, .inr hc⟩
  | true => exact ⟨'-', _, rfl, .inl rfl⟩

/-- A number begins with a minus, a digit or the letter of a word. -/
theorem first_amount {x : Amount} (hx : x.Printable) :
    ∃ c rest, amountChars x = c :: rest ∧ (c.isDigit = true ∨ c ∈ ['-', 'N', 'I']) := by
  rcases writable_or_word hx with hwritable | hword
  · obtain ⟨negative, l, h⟩ := amount_numeral hwritable
    obtain ⟨c, rest, hc, rfl | hdigit⟩ := h.starts
    · exact ⟨'-', rest, hc, .inr (by decide)⟩
    · exact ⟨c, rest, hc, .inl hdigit⟩
  · simp only [words, List.mem_cons, Prod.mk.injEq, reduceCtorEq, and_false, false_or, List.not_mem_nil,
      or_false] at hword
    rcases hword with ⟨hchars, -⟩ | ⟨hchars, -⟩ | ⟨hchars, -⟩
    · exact ⟨'N', _, hchars, .inr (by decide)⟩
    · exact ⟨'I', _, hchars, .inr (by decide)⟩
    · exact ⟨'-', _, hchars, .inr (by decide)⟩

/-- A value begins with a character of its own. -/
theorem starts_chars (layout : Layout) (level : ℕ) {d : Datum Amount} (hd : d.Printable) :
    Starts (chars layout level d) := by
  unfold chars
  cases d with
  | null => exact ⟨'n', _, rfl, by decide⟩
  | bool b => cases b <;> exact ⟨_, _, rfl, by decide⟩
  | num x =>
    have hnone : ∀ c ∈ nonStarters, c.isDigit = false ∧ c ∉ ['-', 'N', 'I'] := by
      simp [nonStarters, Char.isDigit]
    obtain ⟨c, rest, hc, hfirst⟩ := first_amount (Datum.printable_num.1 hd)
    refine ⟨c, rest, hc, fun hmem => ?_⟩
    obtain ⟨hdigit, hother⟩ := hnone c hmem
    exact hfirst.elim (Bool.eq_false_iff.1 hdigit) hother
  | text s => exact ⟨'"', _, rfl, by decide⟩
  | bytes bs => cases hd
  | seq kind items => cases items <;> exact ⟨'[', _, rfl, by decide⟩
  | map fields =>
    rcases fields with _ | ⟨⟨key, d⟩, rest⟩ <;> exact ⟨'{', _, rfl, by decide⟩
  | record kind fields => cases hd

theorem starts_encode (key : String) : Starts (encode key.toList) :=
  ⟨'"', _, rfl, by decide⟩

/-- A value after which only such a character comes is not read on. -/
theorem ends_cons {c : Char} (rest : List Char) (hc : c.isDigit = false ∧ c ≠ '.' ∧ c ≠ 'e' ∧ c ≠ 'E') :
    Ends (c :: rest) := by
  rintro _ ⟨⟩
  exact hc

theorem ends_blank {cs : List Char} (hcs : Blank cs) {rest : List Char} (hrest : Ends rest) :
    Ends (cs ++ rest) := by
  cases cs with
  | nil => exact hrest
  | cons c cs =>
    have hc := hcs c List.mem_cons_self
    refine ends_cons _ ?_
    simp only [isSpace, Bool.or_eq_true, decide_eq_true_eq] at hc
    rcases hc with ((rfl | rfl) | rfl) | rfl <;> decide

/-! ## Steps -/

/-- A reader takes a text for a value and leaves the rest, wherever the text stands. -/
def Reads {β : Type} (reader : Cursor → Except Stop (β × Cursor)) (text : List Char) (b : β)
    (rest : List Char) : Prop :=
  ∀ offset, ∃ o, reader ⟨text, offset⟩ = .ok (b, ⟨rest, o⟩)

section

variable {fuel : ℕ} {text rest gap : List Char} {d : Datum Amount} {items : List (Datum Amount)}

theorem value_atom {c : Char} (htext : c ≠ '"') (hobject : c ≠ '{') (harray : c ≠ '[') (offset : ℕ) :
    value (fuel + 1) ⟨c :: rest, offset⟩ = atom ⟨c :: rest, offset⟩ := by
  rw [value]
  split
  · next heq =>
    cases heq
    exact absurd rfl htext
  · next heq =>
    cases heq
    exact absurd rfl hobject
  · next heq =>
    cases heq
    exact absurd rfl harray
  · rfl

theorem reads_num {x : Amount} (hx : x.Printable) (hrest : Ends rest) :
    Reads (value (fuel + 1)) (amountChars x ++ rest) (.num x) rest := by
  intro offset
  obtain ⟨c, cs, hc, hfirst⟩ := first_amount hx
  have hne : ∀ x : Char, x.isDigit = false → x ∉ ['-', 'N', 'I'] → c ≠ x := by
    rintro _ hdigit hother rfl
    exact hfirst.elim (Bool.eq_false_iff.1 hdigit) hother
  refine ⟨_, Eq.trans ?_ (atom_amount hx hrest offset)⟩
  rw [hc]
  exact value_atom (hne _ (by decide) (by decide)) (hne _ (by decide) (by decide))
    (hne _ (by decide) (by decide)) offset

theorem reads_text (s : String) : Reads (value (fuel + 1)) (encode s.toList ++ rest) (.text s) rest := by
  intro offset
  obtain ⟨o, htext⟩ := textPoints_encode s.toList rest offset
  refine ⟨o, ?_⟩
  show (textPoints (Cursor.skip 1 ⟨encode s.toList ++ rest, offset⟩) >>= _) = _
  rw [htext]
  show Except.ok (textDatum (s.toList.map Char.toNat), _) = _
  rw [textDatum_chars]

theorem reads_list (hgap : Blank gap) (htext : Starts text) (h : Reads (elements fuel) text items rest) :
    Reads (value (fuel + 1)) ('[' :: (gap ++ text)) (Datum.list items) rest := by
  intro offset
  obtain ⟨o, hitems⟩ := h (offset + 1 + gap.length)
  have hskip : (Cursor.skip 1 ⟨'[' :: (gap ++ text), offset⟩).skipSpace =
      ⟨text, offset + 1 + gap.length⟩ := skipSpace_blank hgap htext.head (offset + 1)
  have hopen : text.head? ≠ some ']' := htext.head_ne (by decide)
  refine ⟨o, ?_⟩
  rw [value]
  dsimp only
  rw [hskip, if_neg hopen, hitems]
  rfl

/-- The last item of a list. -/
theorem elements_last (hgap : Blank gap) (h : Reads (value fuel) text d (gap ++ ']' :: rest)) :
    Reads (elements (fuel + 1)) text [d] rest := by
  intro offset
  obtain ⟨o, hvalue⟩ := h offset
  have hskip : Cursor.skipSpace ⟨gap ++ ']' :: rest, o⟩ = ⟨']' :: rest, o + gap.length⟩ :=
    skipSpace_blank hgap (by rintro _ ⟨⟩; rfl) o
  refine ⟨o + gap.length + 1, ?_⟩
  rw [elements, hvalue]
  dsimp only [bind, Except.bind]
  rw [hskip]
  rfl

/-- An item of a list with others behind it. -/
theorem elements_more {more : List Char} (hgap : Blank gap) (hmore : Starts more)
    (h : Reads (value fuel) text d (',' :: (gap ++ more))) (hitems : Reads (elements fuel) more items rest) :
    Reads (elements (fuel + 1)) text (d :: items) rest := by
  intro offset
  obtain ⟨o, hvalue⟩ := h offset
  obtain ⟨o', hrest⟩ := hitems (o + 1 + gap.length)
  have hcomma : Cursor.skipSpace ⟨',' :: (gap ++ more), o⟩ = ⟨',' :: (gap ++ more), o⟩ :=
    skipSpace_none (by rintro _ ⟨⟩; rfl) o
  have hskip : (Cursor.skip 1 ⟨',' :: (gap ++ more), o⟩).skipSpace = ⟨more, o + 1 + gap.length⟩ :=
    skipSpace_blank hgap hmore.head (o + 1)
  refine ⟨o', ?_⟩
  rw [elements, hvalue]
  dsimp only [bind, Except.bind]
  rw [hcomma]
  dsimp only
  rw [hskip, hrest]
  rfl

theorem reads_object {entries : List (String × Datum Amount)} (hgap : Blank gap) (htext : Starts text)
    (h : Reads (members fuel) text entries rest) :
    Reads (value (fuel + 1)) ('{' :: (gap ++ text)) (.map (Table.ofEntries entries)) rest := by
  intro offset
  obtain ⟨o, hentries⟩ := h (offset + 1 + gap.length)
  have hskip : (Cursor.skip 1 ⟨'{' :: (gap ++ text), offset⟩).skipSpace =
      ⟨text, offset + 1 + gap.length⟩ := skipSpace_blank hgap htext.head (offset + 1)
  have hopen : text.head? ≠ some '}' := htext.head_ne (by decide)
  refine ⟨o, ?_⟩
  rw [value]
  dsimp only
  rw [hskip, if_neg hopen, hentries]
  rfl

/-- A field of an object up to the end of its value. -/
theorem members_field (key : String) {after : List Char} (htext : Starts text)
    (h : Reads (value fuel) text d after) (offset : ℕ) :
    ∃ o, members (fuel + 1) ⟨encode key.toList ++ ':' :: ' ' :: text, offset⟩ =
      (let c := Cursor.skipSpace ⟨after, o⟩
      match c.rest with
      | '}' :: _ => .ok ([(key, d)], c.skip 1)
      | ',' :: _ => do
        let (entries, c) ← members fuel (c.skip 1).skipSpace
        .ok ((key, d) :: entries, c)
      | _ => c.fail (.delimiter ',')) := by
  obtain ⟨o, hname⟩ := textPoints_encode key.toList (':' :: ' ' :: text) offset
  obtain ⟨o', hvalue⟩ := h (o + 1 + 1)
  have hquote : (encode key.toList ++ ':' :: ' ' :: text).head? = some '"' := rfl
  have hcolon : Cursor.skipSpace ⟨':' :: ' ' :: text, o⟩ = ⟨':' :: ' ' :: text, o⟩ :=
    skipSpace_none (by rintro _ ⟨⟩; rfl) o
  have hskip : (Cursor.skip 1 ⟨':' :: ' ' :: text, o⟩).skipSpace = ⟨text, o + 1 + 1⟩ :=
    skipSpace_blank (List.forall_mem_singleton.2 rfl) htext.head (o + 1)
  refine ⟨o', ?_⟩
  rw [members]
  dsimp only
  rw [if_neg (by rw [hquote]; exact fun h => h rfl), hname]
  dsimp only [bind, Except.bind]
  rw [hcolon, if_neg (by simp), hskip, hvalue]
  dsimp only
  rewrite [map_ofNat_toNat, String.ofList_toList]
  rfl

/-- The last field of an object. -/
theorem members_last {key : String} (hgap : Blank gap) (htext : Starts text)
    (h : Reads (value fuel) text d (gap ++ '}' :: rest)) :
    Reads (members (fuel + 1)) (encode key.toList ++ ':' :: ' ' :: text) [(key, d)] rest := by
  intro offset
  obtain ⟨o, hfield⟩ := members_field key htext h offset
  have hskip : Cursor.skipSpace ⟨gap ++ '}' :: rest, o⟩ = ⟨'}' :: rest, o + gap.length⟩ :=
    skipSpace_blank hgap (by rintro _ ⟨⟩; rfl) o
  refine ⟨o + gap.length + 1, ?_⟩
  rw [hfield, hskip]
  rfl

/-- A field of an object with others behind it. -/
theorem members_more {key : String} {more : List Char} {entries : List (String × Datum Amount)}
    (hgap : Blank gap) (htext : Starts text) (hmore : Starts more)
    (h : Reads (value fuel) text d (',' :: (gap ++ more)))
    (hentries : Reads (members fuel) more entries rest) :
    Reads (members (fuel + 1)) (encode key.toList ++ ':' :: ' ' :: text) ((key, d) :: entries) rest := by
  intro offset
  obtain ⟨o, hfield⟩ := members_field key htext h offset
  obtain ⟨o', hrest⟩ := hentries (o + 1 + gap.length)
  have hcomma : Cursor.skipSpace ⟨',' :: (gap ++ more), o⟩ = ⟨',' :: (gap ++ more), o⟩ :=
    skipSpace_none (by rintro _ ⟨⟩; rfl) o
  have hskip : (Cursor.skip 1 ⟨',' :: (gap ++ more), o⟩).skipSpace = ⟨more, o + 1 + gap.length⟩ :=
    skipSpace_blank hgap hmore.head (o + 1)
  refine ⟨o', ?_⟩
  rw [hfield, hcomma]
  dsimp only
  rw [hskip, hrest]
  rfl

end

/-! ## Values -/

variable (layout : Layout)

/-- With at least as much fuel as its text is long, a value at any level is read back. -/
def ReadsBack (d : Datum Amount) : Prop :=
  ∀ fuel level rest, (chars layout level d).length ≤ fuel → Ends rest →
    Reads (value fuel) (chars layout level d ++ rest) d rest

/-- What comes after a value in a list or an object is no part of it. -/
theorem ends_comma (rest : List Char) : Ends (',' :: rest) :=
  ends_cons rest ⟨by decide, by decide, by decide, by decide⟩

mutual

theorem readsBack (d : Datum Amount) (hd : d.Printable) : ReadsBack layout d := by
  intro fuel level rest hfuel hrest
  obtain ⟨c, cs, hc, -⟩ := starts_chars layout level hd
  obtain ⟨fuel, rfl⟩ : ∃ k, fuel = k + 1 := by
    rw [hc, List.length_cons] at hfuel
    exact ⟨fuel - 1, by omega⟩
  cases d with
  | null => exact fun offset => ⟨offset + 4, by simp [chars, value, atom, words, Cursor.skip]⟩
  | bool b =>
    cases b with
    | false => exact fun offset => ⟨offset + 5, by simp [chars, value, atom, words, Cursor.skip]⟩
    | true => exact fun offset => ⟨offset + 4, by simp [chars, value, atom, words, Cursor.skip]⟩
  | num x => exact reads_num (Datum.printable_num.1 hd) hrest
  | text s => exact reads_text s
  | bytes bs => cases hd
  | seq kind items =>
    obtain ⟨rfl, hitems⟩ := hd
    cases items with
    | nil =>
      exact fun offset => ⟨offset + 2, by
        simp [chars, value, Cursor.skip, Cursor.skipSpace, isSpace, Datum.list]⟩
    | cons d items =>
      have htext : ∀ rest, chars layout level (.seq .list (d :: items)) ++ rest =
          '[' :: (layout.newline (level + 1) ++ (chars layout (level + 1) d ++
            (itemChars layout (level + 1) items ++ (layout.newline level ++ ']' :: rest)))) := by
        simp [chars]
      have hlength := congrArg List.length (htext [])
      simp only [List.length_append, List.length_cons, List.length_nil] at hlength
      rw [htext]
      exact reads_list (blank_newline layout _) ((starts_chars layout _ hitems.1).append _)
        (elements_read d items (readsBack d hitems.1) hitems.2 fuel _ (blank_newline layout level) rest
          (by omega))
  | map fields =>
    cases fields with
    | nil =>
      exact fun offset => ⟨offset + 2, by simp [chars, value, Cursor.skip, Cursor.skipSpace, isSpace]⟩
    | cons field fields =>
      obtain ⟨key, d⟩ := field
      obtain ⟨hkeys, hfields⟩ := hd
      rw [Datum.keys_finiteFields] at hkeys
      have htext : ∀ rest, chars layout level (.map ((key, d) :: fields)) ++ rest =
          '{' :: (layout.newline (level + 1) ++ (encode key.toList ++ ':' :: ' ' ::
            (chars layout (level + 1) d ++
              (fieldChars layout (level + 1) fields ++ (layout.newline level ++ '}' :: rest))))) := by
        simp [chars]
      have hlength := congrArg List.length (htext [])
      simp only [List.length_append, List.length_cons, List.length_nil] at hlength
      have hread := reads_object (blank_newline layout (level + 1)) ((starts_encode key).append _)
        (members_read key d fields (readsBack d hfields.1) hfields.1 hfields.2 fuel (level + 1)
          (blank_newline layout level) rest (by omega))
      rw [htext]
      rwa [Table.ofEntries_of_nodup hkeys] at hread
  | record kind fields => cases hd

theorem elements_read (d : Datum Amount) (items : List (Datum Amount)) (hd : ReadsBack layout d)
    (hitems : Datum.PrintableItems items) (fuel level : ℕ) {gap : List Char} (hgap : Blank gap)
    (rest : List Char)
    (hfuel : (chars layout level d).length + (itemChars layout level items).length < fuel) :
    Reads (elements fuel) (chars layout level d ++ (itemChars layout level items ++ (gap ++ ']' :: rest)))
      (d :: items) rest := by
  obtain ⟨fuel, rfl⟩ : ∃ k, fuel = k + 1 := ⟨fuel - 1, by omega⟩
  cases items with
  | nil =>
    have hends : Ends (gap ++ ']' :: rest) :=
      ends_blank hgap (ends_cons rest ⟨by decide, by decide, by decide, by decide⟩)
    exact elements_last hgap (hd fuel level _ (by omega) hends)
  | cons e items =>
    obtain ⟨between, hbetween, hseparator⟩ := separator_eq layout level
    have htext : itemChars layout level (e :: items) = ',' :: (between ++
        (chars layout level e ++ itemChars layout level items)) := by
      rw [itemChars, hseparator]
      simp
    rw [htext] at hfuel ⊢
    simp only [List.length_append, List.length_cons] at hfuel
    have hrest := elements_read e items (readsBack e hitems.1) hitems.2 fuel level hgap rest (by omega)
    simp only [List.cons_append, List.append_assoc]
    exact elements_more hbetween ((starts_chars layout level hitems.1).append _)
      (hd fuel level _ (by omega) (ends_comma _)) hrest

theorem members_read (key : String) (d : Datum Amount) (fields : List (String × Datum Amount))
    (hd : ReadsBack layout d) (hprintable : d.Printable) (hfields : Datum.PrintableFields fields)
    (fuel level : ℕ) {gap : List Char} (hgap : Blank gap) (rest : List Char)
    (hfuel : (chars layout level d).length + (fieldChars layout level fields).length < fuel) :
    Reads (members fuel) (encode key.toList ++ ':' :: ' ' ::
      (chars layout level d ++ (fieldChars layout level fields ++ (gap ++ '}' :: rest))))
      ((key, d) :: fields) rest := by
  obtain ⟨fuel, rfl⟩ : ∃ k, fuel = k + 1 := ⟨fuel - 1, by omega⟩
  have hstarts := starts_chars layout level hprintable
  cases fields with
  | nil =>
    have hends : Ends (gap ++ '}' :: rest) :=
      ends_blank hgap (ends_cons rest ⟨by decide, by decide, by decide, by decide⟩)
    exact members_last hgap (hstarts.append _) (hd fuel level _ (by omega) hends)
  | cons field fields =>
    obtain ⟨next, e⟩ := field
    obtain ⟨between, hbetween, hseparator⟩ := separator_eq layout level
    have htext : fieldChars layout level ((next, e) :: fields) = ',' :: (between ++
        (encode next.toList ++ ':' :: ' ' :: (chars layout level e ++ fieldChars layout level fields))) := by
      rw [fieldChars, hseparator]
      simp
    rw [htext] at hfuel ⊢
    simp only [List.length_append, List.length_cons] at hfuel
    have hrest := members_read next e fields (readsBack e hfields.1) hfields.1 hfields.2 fuel level hgap
      rest (by omega)
    simp only [List.cons_append, List.append_assoc]
    exact members_more hbetween (hstarts.append _) ((starts_encode next).append _)
      (hd fuel level _ (by omega) (ends_comma _)) hrest

end

theorem document_chars {d : Datum Amount} (hd : d.Printable) : document (chars layout 0 d) = .ok d := by
  have hstarts := starts_chars layout 0 hd
  have hfirst : (Cursor.mk (chars layout 0 d) 0).skipSpace = ⟨chars layout 0 d, 0⟩ :=
    skipSpace_none hstarts.head 0
  have hends : Ends [] := by rintro _ ⟨⟩
  obtain ⟨o, hvalue⟩ := readsBack layout d hd (2 * (chars layout 0 d).length + 2) 0 [] (by omega) hends 0
  rw [List.append_nil] at hvalue
  have hlast : Cursor.skipSpace ⟨[], o⟩ = ⟨[], o⟩ := skipSpace_none (by rintro _ ⟨⟩) o
  unfold document
  rw [if_neg (hstarts.head_ne (by decide)), hfirst, hvalue]
  dsimp only [bind, Except.bind]
  rw [hlast]
  rfl

/-- The text of a value is read as the value. -/
theorem read_print {d : Datum Amount} (hd : d.Printable) : read (print layout d) = .ok d := by
  unfold read print
  rw [String.toList_ofList, document_chars layout hd]

end Json

end StoryRules
