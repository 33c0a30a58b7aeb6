import Mathlib
import StoryRules.Json.Escape

/-!
# Texts are read back

The escape of a character is read as its code point, whatever follows it, so a text between quotes is read as
the code points of its characters.

    decode (encode s without its quote ++ rest) = .ok (s.map Char.toNat, rest, _)      (decode_encode)
-/

namespace StoryRules.Json

/-! ## Units -/

theorem hexDigit?_digitChar : ∀ d < 16, hexDigit? (Nat.digitChar d) = some d := by decide

/-- One more place for the lowest digit. -/
theorem hexText_succ {width : Nat} (hwidth : 0 < width) (n : Nat) : (Text.hexText (width + 1) n).toList =
    (Text.hexText width (n / 16)).toList ++ [Nat.digitChar (n % 16)] := by
  unfold Text.hexText
  dsimp only
  rw [String.toList_ofList, String.toList_ofList, List.append_assoc]
  by_cases hn : n < 16
  · rw [Nat.toDigits_of_lt_base hn, Nat.div_eq_of_lt hn, Nat.mod_eq_of_lt hn, Nat.toDigits_zero]
    obtain ⟨k, rfl⟩ : ∃ k, width = k + 1 := ⟨width - 1, by omega⟩
    show List.replicate (k + 1) '0' ++ _ = List.replicate k '0' ++ (['0'] ++ _)
    rw [List.replicate_succ', List.append_assoc]
  · rw [Nat.toDigits_of_base_le (by decide) (by omega), List.length_append]
    congr 2
    show width + 1 - (_ + 1) = _
    omega

/-- The four hexadecimal digits of a unit. -/
theorem hexText_four {n : Nat} (hn : n < 0x10000) : (Text.hexText 4 n).toList =
    [Nat.digitChar (n / 16 / 16 / 16), Nat.digitChar (n / 16 / 16 % 16), Nat.digitChar (n / 16 % 16),
      Nat.digitChar (n % 16)] := by
  have hfirst : (Text.hexText 1 (n / 16 / 16 / 16)).toList = [Nat.digitChar (n / 16 / 16 / 16)] := by
    unfold Text.hexText
    rw [Nat.toDigits_of_lt_base (by omega), String.toList_ofList]
    rfl
  rw [hexText_succ (by decide), hexText_succ (by decide), hexText_succ (by decide), hfirst]
  rfl

theorem length_unitEscape {n : Nat} (hn : n < 0x10000) : (unitEscape n).length = 6 := by
  rw [unitEscape, List.length_cons, List.length_cons, hexText_four hn]
  rfl

/-- The digits of a unit are read back if anything follows. -/
theorem unit?_hexText {n : Nat} (hn : n < 0x10000) {rest : List Char} (hrest : rest ≠ []) :
    unit? ((Text.hexText 4 n).toList ++ rest) = some (n, rest) := by
  obtain ⟨c, cs, rfl⟩ := List.exists_cons_of_ne_nil hrest
  rw [hexText_four hn]
  simp only [List.cons_append, List.nil_append, unit?]
  rw [hexDigit?_digitChar _ (by omega), hexDigit?_digitChar _ (by omega), hexDigit?_digitChar _ (by omega),
    hexDigit?_digitChar _ (by omega)]
  dsimp only
  congr 2
  omega

/-! ## Characters -/

/-- A character is no half of a pair. -/
theorem toNat_not_surrogate (c : Char) : c.toNat < 0xD800 ∨ 0xDFFF < c.toNat ∧ c.toNat < 0x110000 := by
  rcases c.valid with h | h
  · exact .inl h
  · exact .inr h

section

variable {fuel offset : Nat} {tail : List Char} {points : List Nat} {after : List Char × Nat}

/-- A letter behind a backslash. -/
theorem decodeFrom_letter {x c : Char} (hx : x ≠ 'u') (hletter : letter? x = some c)
    (h : decodeFrom fuel (offset + 2) tail = .ok (points, after)) :
    decodeFrom (fuel + 1) offset ('\\' :: x :: tail) = .ok (c.toNat :: points, after) := by
  rw [decodeFrom, hletter]
  · show (decodeFrom fuel (offset + 2) tail >>= _) = _
    rw [h]
    rfl
  · exact hx

/-- A character that stands for itself. -/
theorem decodeFrom_self {c : Char} (hquote : c ≠ '"') (hslash : c ≠ '\\') (hprints : 0x20 ≤ c.toNat)
    (h : decodeFrom fuel (offset + 1) tail = .ok (points, after)) :
    decodeFrom (fuel + 1) offset (c :: tail) = .ok (c.toNat :: points, after) := by
  rw [decodeFrom, if_neg (by omega), h]
  · rfl
  · exact hquote
  · exact hslash

/-- A unit that is no first half of a pair. -/
theorem decodeFrom_unit {n : Nat} (hn : n < 0x10000) (hhigh : isHighSurrogate n = false) (htail : tail ≠ [])
    (h : decodeFrom fuel (offset + 6) tail = .ok (points, after)) :
    decodeFrom (fuel + 1) offset (unitEscape n ++ tail) = .ok (n :: points, after) := by
  unfold unitEscape
  rw [List.cons_append, List.cons_append, decodeFrom, unit?_hexText hn htail]
  dsimp only
  rw [hhigh]
  show (decodeFrom fuel (offset + 6) tail >>= _) = _
  rw [h]
  rfl

/-- A surrogate pair. -/
theorem decodeFrom_pair {high low : Nat} (hhigh : isHighSurrogate high = true)
    (hlow : isLowSurrogate low = true) (htail : tail ≠ [])
    (h : decodeFrom fuel (offset + 12) tail = .ok (points, after)) :
    decodeFrom (fuel + 1) offset (unitEscape high ++ (unitEscape low ++ tail)) =
      .ok ((0x10000 + (high - 0xD800) * 0x400 + (low - 0xDC00)) :: points, after) := by
  have hhigh' : high < 0x10000 := by
    simp only [isHighSurrogate, Bool.and_eq_true, decide_eq_true_eq] at hhigh
    omega
  have hlow' : low < 0x10000 := by
    simp only [isLowSurrogate, Bool.and_eq_true, decide_eq_true_eq] at hlow
    omega
  have hlong : ¬ ((Text.hexText 4 low).toList ++ tail).length < 5 := by
    have := List.length_pos_iff.2 htail
    rw [hexText_four hlow', List.length_append]
    simp only [List.length_cons, List.length_nil]
    omega
  have hhalf : lowHalf? (offset + 6) (unitEscape low ++ tail) = .ok (some (low, tail)) := by
    unfold unitEscape
    rw [List.cons_append, List.cons_append, lowHalf?, if_neg hlong, unit?_hexText hlow' htail]
    dsimp only
    rw [hlow]
    rfl
  have hsome : unitEscape low ++ tail ≠ [] := by simp [unitEscape]
  rw [unitEscape, List.cons_append, List.cons_append, decodeFrom, unit?_hexText hhigh' hsome]
  dsimp only
  rw [hhigh, if_pos rfl, hhalf]
  show (decodeFrom fuel (offset + 12) tail >>= _) = _
  rw [h]
  rfl

end

/-- The four forms of an escape: a letter behind a backslash, the character itself, a unit, and a pair of
units. -/
theorem escapeChar_cases (c : Char) :
    (∃ x, x ≠ 'u' ∧ letter? x = some c ∧ escapeChar c = ['\\', x]) ∨
    (c ≠ '"' ∧ c ≠ '\\' ∧ 0x20 ≤ c.toNat ∧ escapeChar c = [c]) ∨
    (c.toNat < 0x10000 ∧ escapeChar c = unitEscape c.toNat) ∨
    (0x10000 ≤ c.toNat ∧ escapeChar c = unitEscape (0xD800 + (c.toNat - 0x10000) / 0x400) ++
      unitEscape (0xDC00 + (c.toNat - 0x10000) % 0x400)) := by
  by_cases hletter : ∃ x, x ≠ 'u' ∧ letter? x = some c ∧ escapeChar c = ['\\', x]
  · exact .inl hletter
  have hother : ∀ d x, x ≠ 'u' → letter? x = some d → escapeChar d = ['\\', x] → c ≠ d := by
    rintro d x hx hd hescape rfl
    exact hletter ⟨x, hx, hd, hescape⟩
  have hquote := hother '"' '"' (by decide) rfl rfl
  have hslash := hother '\\' '\\' (by decide) rfl rfl
  have hfeed := hother '\n' 'n' (by decide) rfl rfl
  have hreturn := hother '\r' 'r' (by decide) rfl rfl
  have htab := hother '\t' 't' (by decide) rfl rfl
  have hpage : c.toNat ≠ 0x0C := fun h =>
    hother (Char.ofNat 0x0C) 'f' (by decide) rfl rfl (by rw [← h, Char.ofNat_toNat])
  have hback : c.toNat ≠ 0x08 := fun h =>
    hother (Char.ofNat 0x08) 'b' (by decide) rfl rfl (by rw [← h, Char.ofNat_toNat])
  right
  unfold escapeChar
  rw [if_neg hquote, if_neg hslash, if_neg hfeed, if_neg hreturn, if_neg htab, if_neg hpage, if_neg hback]
  by_cases hprints : 0x20 ≤ c.toNat ∧ c.toNat ≤ 0x7E
  · exact .inl ⟨hquote, hslash, hprints.1, if_pos hprints⟩
  · rw [if_neg hprints]
    by_cases hunit : c.toNat < 0x10000
    · exact .inr (.inl ⟨hunit, if_pos hunit⟩)
    · exact .inr (.inr ⟨Nat.le_of_not_lt hunit, if_neg hunit⟩)

/-- A text is read as one code point, with more behind it. -/
def Decodes (text : List Char) (point : Nat) : Prop :=
  ∀ ⦃fuel offset : Nat⦄ ⦃tail points after⦄, tail ≠ [] →
    decodeFrom fuel (offset + text.length) tail = .ok (points, after) →
      decodeFrom (fuel + 1) offset (text ++ tail) = .ok (point :: points, after)

theorem decodes_unit {n : Nat} (hn : n < 0x10000) (hhigh : isHighSurrogate n = false) :
    Decodes (unitEscape n) n := by
  intro fuel offset tail points after htail h
  rw [length_unitEscape hn] at h
  exact decodeFrom_unit hn hhigh htail h

/-- The offset from the first code point beyond 16 bits is split into two times ten bits. -/
theorem decodes_pair (above : Nat) (habove : above < 0x100000) :
    Decodes (unitEscape (0xD800 + above / 0x400) ++ unitEscape (0xDC00 + above % 0x400))
      (0x10000 + above) := by
  intro fuel offset tail points after htail h
  have hhigh : isHighSurrogate (0xD800 + above / 0x400) = true := by
    rw [isHighSurrogate, Bool.and_eq_true, decide_eq_true_eq, decide_eq_true_eq]
    omega
  have hlow : isLowSurrogate (0xDC00 + above % 0x400) = true := by
    rw [isLowSurrogate, Bool.and_eq_true, decide_eq_true_eq, decide_eq_true_eq]
    omega
  have hpoint : 0x10000 + (0xD800 + above / 0x400 - 0xD800) * 0x400 +
      (0xDC00 + above % 0x400 - 0xDC00) = 0x10000 + above := by omega
  rw [List.length_append, length_unitEscape (by omega), length_unitEscape (by omega)] at h
  rw [List.append_assoc, decodeFrom_pair hhigh hlow htail h, hpoint]

/-- The escape of a character is read as its code point. -/
theorem decodes_escapeChar (c : Char) : Decodes (escapeChar c) c.toNat := by
  rcases escapeChar_cases c with ⟨x, hx, hletter, hescape⟩ | ⟨hquote, hslash, hprints, hescape⟩ |
    ⟨hunit, hescape⟩ | ⟨hlong, hescape⟩ <;> rw [hescape]
  · exact fun _ _ _ _ _ _ h => decodeFrom_letter hx hletter h
  · exact fun _ _ _ _ _ _ h => decodeFrom_self hquote hslash hprints h
  · refine decodes_unit hunit ?_
    rw [isHighSurrogate, Bool.and_eq_false_iff, decide_eq_false_iff_not, decide_eq_false_iff_not]
    rcases toNat_not_surrogate c with hc | hc <;> omega
  · obtain ⟨above, habove⟩ := Nat.exists_eq_add_of_le hlong
    have hbeyond := (toNat_not_surrogate c).resolve_left (by omega)
    rw [habove, Nat.add_sub_cancel_left]
    exact decodes_pair above (by omega)

/-- The text of a string is read as its code points, up to the closing quote. -/
theorem decodeFrom_flatMap (s : List Char) {fuel : Nat} (hfuel : s.length < fuel) (offset : Nat)
    (rest : List Char) : decodeFrom fuel offset (s.flatMap escapeChar ++ '"' :: rest) =
      .ok (s.map Char.toNat, rest, offset + (s.flatMap escapeChar).length + 1) := by
  induction s generalizing fuel offset with
  | nil =>
    obtain ⟨fuel, rfl⟩ : ∃ k, fuel = k + 1 := ⟨fuel - 1, by simp at hfuel; omega⟩
    rfl
  | cons c s ih =>
    obtain ⟨fuel, rfl⟩ : ∃ k, fuel = k + 1 := ⟨fuel - 1, by omega⟩
    have hshorter : s.length < fuel := Nat.lt_of_succ_lt_succ hfuel
    have hrest := ih hshorter (offset + (escapeChar c).length)
    rw [List.flatMap_cons, List.append_assoc, List.length_append,
      decodes_escapeChar c (by simp) hrest, List.map_cons, Nat.add_assoc offset]

theorem escapeChar_ne_nil (c : Char) : escapeChar c ≠ [] := by
  rcases escapeChar_cases c with ⟨x, -, -, hescape⟩ | ⟨-, -, -, hescape⟩ | ⟨-, hescape⟩ | ⟨-, hescape⟩ <;>
    rw [hescape] <;> exact List.cons_ne_nil _ _

theorem length_le_flatMap (s : List Char) : s.length ≤ (s.flatMap escapeChar).length := by
  induction s with
  | nil => exact Nat.le_refl _
  | cons c s ih =>
    have := List.length_pos_iff.2 (escapeChar_ne_nil c)
    rw [List.flatMap_cons, List.length_append, List.length_cons]
    omega

/-- A written text is read as its code points. -/
theorem decode_encode (s rest : List Char) : decode (s.flatMap escapeChar ++ '"' :: rest) =
    .ok (s.map Char.toNat, rest, (encode s).length) := by
  have hfuel : s.length < (s.flatMap escapeChar ++ '"' :: rest).length + 1 := by
    have := length_le_flatMap s
    rw [List.length_append]
    omega
  unfold decode encode
  rw [decodeFrom_flatMap s hfuel]
  simp
  omega

end StoryRules.Json
