import StoryRules.Proofs.Json.RoundTrip

/-!
# JSON texts are ASCII

Whatever a value holds, its JSON text has no character beyond ASCII: those of texts are escaped, and numerals have
digits, signs, a point and a letter.

    Ascii (chars layout level d)      (chars_ascii)
-/

namespace StoryRules.Json

def Ascii (cs : List Char) : Prop := ∀ c ∈ cs, c.toNat < 0x80

section

variable {cs ds : List Char} {c : Char}

theorem ascii_nil : Ascii [] := List.forall_mem_nil _

theorem ascii_cons : Ascii (c :: cs) ↔ c.toNat < 0x80 ∧ Ascii cs := List.forall_mem_cons

theorem ascii_append : Ascii (cs ++ ds) ↔ Ascii cs ∧ Ascii ds := List.forall_mem_append

theorem AllDigits.ascii (h : AllDigits cs) : Ascii cs := fun c hc => by
  have hdigit := h c hc
  have hnine : c.toNat ≤ '9'.toNat := (Char.isDigit_iff_toNat.1 hdigit).2
  exact Nat.lt_of_le_of_lt hnine (by decide)

end

/-! ## Texts -/

theorem unitEscape_ascii {n : ℕ} (hn : n < 0x10000) : Ascii (unitEscape n) := by
  have hdigit : ∀ d < 16, (Nat.digitChar d).toNat < 0x80 := by decide
  rw [unitEscape, hexText_four hn]
  simp only [ascii_cons, ascii_nil, and_true]
  refine ⟨by decide, by decide, hdigit _ ?_, hdigit _ ?_, hdigit _ ?_, hdigit _ ?_⟩ <;> omega

theorem escapeChar_ascii (c : Char) : Ascii (escapeChar c) := by
  unfold escapeChar
  iterate 7
    split
    · simp [Ascii]
  split
  · next hprints => exact ascii_cons.2 ⟨by omega, ascii_nil⟩
  · split
    · next hshort => exact unitEscape_ascii hshort
    · rcases toNat_not_surrogate c with hc | hc
      all_goals exact ascii_append.2 ⟨unitEscape_ascii (by omega), unitEscape_ascii (by omega)⟩

theorem encode_ascii (s : List Char) : Ascii (encode s) := by
  have hquote : Ascii ['"'] := List.forall_mem_singleton.2 (by decide)
  refine ascii_append.2 ⟨ascii_cons.2 ⟨by decide, fun c hc => ?_⟩, hquote⟩
  obtain ⟨d, -, hd⟩ := List.mem_flatMap.1 hc
  exact escapeChar_ascii d c hd

/-! ## Amounts -/

theorem Literal.WellFormed.ascii {l : Literal} (h : l.WellFormed) : Ascii l.chars := by
  refine ascii_append.2 ⟨h.whole.ascii, ascii_append.2 ⟨?_, ?_⟩⟩
  · unfold Literal.fractionChars
    split
    · exact ascii_nil
    · exact ascii_cons.2 ⟨by decide, h.fraction.ascii⟩
  · unfold Literal.powerChars
    split
    · exact ascii_nil
    · next negative digits hpower =>
      refine ascii_cons.2 ⟨by decide, ascii_cons.2 ⟨?_, (h.power _ hpower).1.ascii⟩⟩
      cases negative <;> decide

theorem Numeral.ascii {text : List Char} {d : Datum Amount} {negative : Bool} {l : Literal}
    (h : Numeral text d negative l) : Ascii text := by
  have hsign : Ascii (signChars negative) := by cases negative <;> simp [Ascii, signChars]
  rw [h.chars]
  exact ascii_append.2 ⟨hsign, h.wellFormed.ascii⟩

theorem whole_ascii (n : ℤ) : Ascii (toString n).toList := by
  cases n with
  | ofNat k =>
    show Ascii k.repr.toList
    rw [Nat.toList_repr]
    exact (allDigits_toDigits k).ascii
  | negSucc k =>
    show Ascii ("-" ++ (k + 1).repr).toList
    rw [String.toList_append, Nat.toList_repr]
    exact ascii_append.2 ⟨by simp [Ascii], (allDigits_toDigits _).ascii⟩

theorem words_ascii : ∀ word ∈ words, Ascii word.1 := by
  simp [words, Ascii]

theorem amountChars_ascii (x : Amount) : Ascii (amountChars x) := by
  cases x with
  | int n => exact whole_ascii n
  | float x =>
    cases hx : x.isFinite with
    | true =>
      obtain ⟨negative, l, hnumeral⟩ := amount_numeral (x := .float x) hx
      exact hnumeral.ascii
    | false => exact words_ascii _ (mem_words hx)

/-! ## Values -/

theorem newline_ascii (layout : Layout) (level : ℕ) : Ascii (layout.newline level) := by
  cases layout with
  | none => exact ascii_nil
  | some width =>
    refine ascii_cons.2 ⟨by decide, fun c hc => ?_⟩
    rw [List.eq_of_mem_replicate hc]
    decide

theorem separator_ascii (layout : Layout) (level : ℕ) : Ascii (layout.separator level) := by
  cases layout with
  | none => simp [Ascii, Layout.separator]
  | some width => exact ascii_cons.2 ⟨by decide, newline_ascii (some width) level⟩

mutual

theorem chars_ascii (layout : Layout) (level : ℕ) (d : Datum Amount) : Ascii (chars layout level d) := by
  have hnull : Ascii "null".toList := by simp [Ascii]
  cases d with
  | null | bytes bs | record kind fields => rwa [chars]
  | bool b =>
    rw [chars]
    cases b <;> simp [Ascii]
  | num x =>
    rw [chars]
    exact amountChars_ascii x
  | text s =>
    rw [chars]
    exact encode_ascii _
  | seq kind items =>
    cases items with
    | nil =>
      rw [chars]
      simp [Ascii]
    | cons d rest =>
      have hitem := chars_ascii layout (level + 1) d
      have hrest := itemChars_ascii layout (level + 1) rest
      rw [chars]
      simp only [ascii_append, ascii_cons, ascii_nil, newline_ascii, hitem, hrest, and_true]
      decide
  | map fields =>
    cases fields with
    | nil =>
      rw [chars]
      simp [Ascii]
    | cons field rest =>
      obtain ⟨key, d⟩ := field
      have hvalue := chars_ascii layout (level + 1) d
      have hrest := fieldChars_ascii layout (level + 1) rest
      rw [chars]
      simp only [ascii_append, ascii_cons, ascii_nil, newline_ascii, encode_ascii, hvalue, hrest, and_true]
      decide

theorem itemChars_ascii (layout : Layout) (level : ℕ) (items : List (Datum Amount)) :
    Ascii (itemChars layout level items) := by
  cases items with
  | nil =>
    rw [itemChars]
    exact ascii_nil
  | cons d rest =>
    have hitem := chars_ascii layout level d
    have hrest := itemChars_ascii layout level rest
    rw [itemChars]
    exact ascii_append.2 ⟨ascii_append.2 ⟨separator_ascii layout level, hitem⟩, hrest⟩

theorem fieldChars_ascii (layout : Layout) (level : ℕ) (fields : List (String × Datum Amount)) :
    Ascii (fieldChars layout level fields) := by
  cases fields with
  | nil =>
    rw [fieldChars]
    exact ascii_nil
  | cons field rest =>
    obtain ⟨key, d⟩ := field
    have hvalue := chars_ascii layout level d
    have hrest := fieldChars_ascii layout level rest
    rw [fieldChars]
    simp only [ascii_append, ascii_cons, ascii_nil, separator_ascii, encode_ascii, hvalue, hrest, and_true]
    decide

end

/-- A text that is printed as JSON is ASCII. -/
theorem print_ascii (layout : Layout) (d : Datum Amount) : Ascii (print layout d).toList := by
  unfold print
  rw [String.toList_ofList]
  exact chars_ascii layout 0 d

end StoryRules.Json
