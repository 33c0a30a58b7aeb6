import StoryRules.Proofs.Json.RoundTrip

/-!
# Where the reader counts digits

Reading goes forward in the text, and stops for the number of digits only where the text has a whole number
with more digits than are read.

    read s = .error (.tooManyDigits n) → digitLimit < n ∧ HasWhole s.toList n      (read_tooManyDigits)
-/

namespace StoryRules.Json

/-- A whole number of some digits stands in a text: no more digits belong to it, and neither a fraction nor a
power of ten follows. -/
def HasWhole (cs : List Char) (count : ℕ) : Prop :=
  ∃ front digits rest, cs = front ++ (digits ++ rest) ∧ digits.length = count ∧ AllDigits digits ∧
    (∀ c ∈ rest.head?, c.isDigit = false) ∧ fractionOf rest = [] ∧ (powerOf rest).2 = []

/-- The whole numbers in a text have no more digits than are read. -/
def ShortWholes (cs : List Char) : Prop := ∀ count, HasWhole cs count → count ≤ digitLimit

/-- A short text has only short whole numbers. -/
theorem shortWholes_of_length {cs : List Char} (h : cs.length ≤ digitLimit) : ShortWholes cs := by
  rintro count ⟨front, digits, rest, rfl, rfl, -⟩
  refine Nat.le_trans ?_ h
  rw [List.length_append, List.length_append]
  omega

theorem HasWhole.of_suffix {cs suffix : List Char} {count : ℕ} (h : HasWhole suffix count)
    (hsuffix : suffix <:+ cs) : HasWhole cs count := by
  obtain ⟨before, rfl⟩ := hsuffix
  obtain ⟨front, digits, rest, rfl, h⟩ := h
  exact ⟨before ++ front, digits, rest, (List.append_assoc ..).symm, h⟩

/-- What a reader comes to within a text: it goes on in the text, or it stops, for the number of digits only
at a whole number of the text with too many. -/
def Within {β : Type} (cs : List Char) : Except Stop (β × Cursor) → Prop
  | .ok (_, c) => c.rest <:+ cs
  | .error (.tooManyDigits count) => digitLimit < count ∧ HasWhole cs count
  | .error (.unexpected _ _) => True

section

variable {β γ : Type} {cs : List Char}

theorem Within.bind {x : Except Stop (β × Cursor)} {f : β × Cursor → Except Stop (γ × Cursor)}
    (hx : Within cs x) (hf : ∀ b c, c.rest <:+ cs → Within cs (f (b, c))) : Within cs (x >>= f) := by
  cases x with
  | error stop => cases stop <;> exact hx
  | ok result => exact hf result.1 result.2 hx

theorem within_fail (c : Cursor) (what : Expectation) : Within (β := β) cs (c.fail what) := trivial

theorem suffix_skip {c : Cursor} (h : c.rest <:+ cs) (n : ℕ) : (c.skip n).rest <:+ cs :=
  (List.drop_suffix n c.rest).trans h

theorem suffix_skipSpace {c : Cursor} (h : c.rest <:+ cs) : c.skipSpace.rest <:+ cs := suffix_skip h _

end

/-! ## Texts -/

theorem unit?_suffix {cs rest : List Char} {n : ℕ} (h : unit? cs = some (n, rest)) : rest <:+ cs := by
  unfold unit? at h
  split at h
  · split at h
    · cases h
      exact ⟨[_, _, _, _], rfl⟩
    · cases h
  · cases h

theorem lowHalf?_suffix {offset low : ℕ} {cs rest : List Char}
    (h : lowHalf? offset cs = .ok (some (low, rest))) : rest <:+ cs := by
  unfold lowHalf? at h
  split at h
  · split at h
    · cases h
    · split at h
      · cases h
      · next unit after hunit =>
        have hsuffix := unit?_suffix hunit
        split at h
        · cases h
          exact hsuffix.trans ⟨['\\', 'u'], rfl⟩
        · cases h
  · cases h

/-- Reading on behind a code point. -/
theorem suffix_of_more {x : Except TextProblem (List ℕ × List Char × ℕ)} {point n : ℕ}
    {cs rest : List Char} {points : List ℕ}
    (hx : ∀ {points rest n}, x = .ok (points, rest, n) → rest <:+ cs)
    (h : (do
      let (points, after) ← x
      .ok (point :: points, after)) = Except.ok (points, rest, n)) : rest <:+ cs := by
  cases x with
  | error problem => cases h
  | ok result =>
    obtain ⟨more, left, last⟩ := result
    cases h
    exact hx rfl

theorem decodeFrom_suffix {fuel offset n : ℕ} {cs rest : List Char} {points : List ℕ}
    (h : decodeFrom fuel offset cs = .ok (points, rest, n)) : rest <:+ cs := by
  fun_induction decodeFrom fuel offset cs generalizing points rest n with
  | case1 | case2 | case4 | case5 | case8 | case10 => cases h
  | case3 =>
    cases h
    exact List.suffix_cons _ _
  | case6 _ _ digits unit after hunit _ _ ihpair =>
    rename_i ihsingle
    have hafter : after <:+ '\\' :: 'u' :: digits := (unit?_suffix hunit).trans ⟨['\\', 'u'], rfl⟩
    rcases hlow : lowHalf? _ after with problem | _ | ⟨low, left⟩
    · rw [hlow] at h
      cases h
    · rw [hlow] at h
      exact (suffix_of_more ihsingle h).trans hafter
    · rw [hlow] at h
      exact ((suffix_of_more (ihpair left) h).trans (lowHalf?_suffix hlow)).trans hafter
  | case7 _ _ digits unit after hunit =>
    rename_i ihsingle
    exact ((suffix_of_more ihsingle h).trans (unit?_suffix hunit)).trans ⟨['\\', 'u'], rfl⟩
  | case9 _ _ c after _ _ _ ih => exact (suffix_of_more ih h).trans ⟨['\\', c], rfl⟩
  | case11 _ _ c after _ _ _ ih => exact (suffix_of_more ih h).trans ⟨[c], rfl⟩

theorem textPoints_within {cs : List Char} {c : Cursor} (h : c.rest <:+ cs) : Within cs (textPoints c) := by
  unfold textPoints
  cases hdecode : decode c.rest with
  | error problem => trivial
  | ok result =>
    obtain ⟨points, rest, distance⟩ := result
    exact (decodeFrom_suffix hdecode).trans h

/-! ## Numerals -/

theorem allDigits_takeWhile (cs : List Char) : AllDigits (cs.takeWhile Char.isDigit) :=
  fun _ h => List.mem_takeWhile_imp h

/-- More digits than are read, at the front of a text, are a whole number if neither a fraction nor a power
of ten follows. -/
theorem hasWhole_wholeOf {cs : List Char} (hlong : digitLimit < (wholeOf cs).length)
    (hfraction : fractionOf (cs.drop (wholeOf cs).length) = [])
    (hpower : (powerOf (cs.drop (wholeOf cs).length)).2 = []) : HasWhole cs (wholeOf cs).length := by
  have hdigits : wholeOf cs = cs.takeWhile Char.isDigit := by
    unfold wholeOf at hlong ⊢
    split
    · next hzero =>
      rw [if_pos hzero] at hlong
      exact absurd hlong (by decide)
    · rfl
  have hrest : cs.drop (cs.takeWhile Char.isDigit).length = cs.dropWhile Char.isDigit := by
    calc cs.drop (cs.takeWhile Char.isDigit).length
        = (cs.takeWhile Char.isDigit ++ cs.dropWhile Char.isDigit).drop
            (cs.takeWhile Char.isDigit).length := by rw [List.takeWhile_append_dropWhile]
      _ = cs.dropWhile Char.isDigit := List.drop_left
  rw [hdigits] at hfraction hpower ⊢
  rw [hrest] at hfraction hpower
  refine ⟨[], cs.takeWhile Char.isDigit, cs.dropWhile Char.isDigit, ?_, rfl, allDigits_takeWhile cs, ?_,
    hfraction, hpower⟩
  · rw [List.nil_append, List.takeWhile_append_dropWhile]
  · intro c hc
    have hstop := List.head?_dropWhile_not Char.isDigit cs
    rw [Option.mem_def.1 hc] at hstop
    exact hstop

theorem numeral_within {cs : List Char} {c : Cursor} (h : c.rest <:+ cs) : Within cs (numeral c) := by
  have hskip : ∀ (p : Bool) {c : Cursor} (n : ℕ), c.rest <:+ cs →
      (if p then c else c.skip n).rest <:+ cs := by
    intro p c n hc
    split
    · exact hc
    · exact suffix_skip hc n
  rw [numeral_eq]
  dsimp only
  have hunsigned : (if c.rest.head? = some '-' then c.skip 1 else c).rest <:+ cs := by
    split
    · exact suffix_skip h 1
    · exact h
  generalize (if c.rest.head? = some '-' then c.skip 1 else c) = unsigned at hunsigned ⊢
  split
  · exact within_fail c _
  · have hbehind := suffix_skip hunsigned (wholeOf unsigned.rest).length
    have hleft := hskip (fractionOf (unsigned.skip (wholeOf unsigned.rest).length).rest).isEmpty
      ((fractionOf (unsigned.skip (wholeOf unsigned.rest).length).rest).length + 1) hbehind
    generalize hif : (if (fractionOf (unsigned.skip (wholeOf unsigned.rest).length).rest).isEmpty then
      unsigned.skip (wholeOf unsigned.rest).length
      else (unsigned.skip (wholeOf unsigned.rest).length).skip
        ((fractionOf (unsigned.skip (wholeOf unsigned.rest).length).rest).length + 1)) = left at hleft ⊢
    have hafter := hskip (powerOf left.rest).2.isEmpty
      (1 + (powerOf left.rest).1.length + (powerOf left.rest).2.length) hleft
    split
    -- only a numeral without fraction and power of ten is held against the limit
    · next hplain =>
      rw [Bool.and_eq_true] at hplain
      obtain ⟨hfraction, hpower⟩ := hplain
      rw [if_pos hfraction] at hif
      subst hif
      split
      · next hlong =>
        rw [List.isEmpty_iff] at hfraction hpower
        exact ⟨hlong, (hasWhole_wholeOf hlong hfraction hpower).of_suffix hunsigned⟩
      · exact hleft
    · exact hafter

theorem atom_within {cs : List Char} {c : Cursor} (h : c.rest <:+ cs) : Within cs (atom c) := by
  unfold atom
  split
  · exact suffix_skip h _
  · exact numeral_within h

/-! ## Values -/

mutual

theorem value_within {cs : List Char} (fuel : ℕ) {c : Cursor} (h : c.rest <:+ cs) :
    Within cs (value fuel c) := by
  cases fuel with
  | zero => exact within_fail c _
  | succ fuel =>
    rw [value]
    split
    · exact (textPoints_within (suffix_skip h 1)).bind fun _ _ h => h
    · dsimp only
      split
      · exact suffix_skip (suffix_skipSpace (suffix_skip h 1)) 1
      · exact (members_within fuel (suffix_skipSpace (suffix_skip h 1))).bind fun _ _ h => h
    · dsimp only
      split
      · exact suffix_skip (suffix_skipSpace (suffix_skip h 1)) 1
      · exact (elements_within fuel (suffix_skipSpace (suffix_skip h 1))).bind fun _ _ h => h
    · exact atom_within h

theorem members_within {cs : List Char} (fuel : ℕ) {c : Cursor} (h : c.rest <:+ cs) :
    Within cs (members fuel c) := by
  cases fuel with
  | zero => exact within_fail c _
  | succ fuel =>
    rw [members]
    split
    · exact within_fail c _
    · refine (textPoints_within (suffix_skip h 1)).bind fun points c h => ?_
      dsimp only
      split
      · exact within_fail _ _
      · refine (value_within fuel (suffix_skipSpace (suffix_skip (suffix_skipSpace h) 1))).bind
          fun d c h => ?_
        dsimp only
        split
        · exact suffix_skip (suffix_skipSpace h) 1
        · exact (members_within fuel (suffix_skipSpace (suffix_skip (suffix_skipSpace h) 1))).bind
            fun _ _ h => h
        · exact within_fail _ _

theorem elements_within {cs : List Char} (fuel : ℕ) {c : Cursor} (h : c.rest <:+ cs) :
    Within cs (elements fuel c) := by
  cases fuel with
  | zero => exact within_fail c _
  | succ fuel =>
    rw [elements]
    refine (value_within fuel h).bind fun d c h => ?_
    dsimp only
    split
    · exact suffix_skip (suffix_skipSpace h) 1
    · exact (elements_within fuel (suffix_skipSpace (suffix_skip (suffix_skipSpace h) 1))).bind
        fun _ _ h => h
    · exact within_fail _ _

end

theorem document_tooManyDigits {cs : List Char} {count : ℕ}
    (h : document cs = .error (.tooManyDigits count)) : digitLimit < count ∧ HasWhole cs count := by
  -- the invariant of reading a value, for the whole text
  have hwithin : Within cs (value (2 * cs.length + 2) (Cursor.mk cs 0).skipSpace) :=
    value_within _ (suffix_skipSpace (c := ⟨cs, 0⟩) (List.suffix_refl _))
  unfold document at h
  split at h
  · cases h
  · rcases hvalue : value (2 * cs.length + 2) (Cursor.mk cs 0).skipSpace with stop | ⟨d, c⟩
    · rw [hvalue] at hwithin h
      cases h
      exact hwithin
    · rw [hvalue] at h
      change (if c.skipSpace.rest.isEmpty then _ else _) = _ at h
      split at h <;> cases h

/-- A text is given up for the number of digits only if it has a whole number with too many. -/
theorem read_tooManyDigits {text : String} {count : ℕ} (h : read text = .error (.tooManyDigits count)) :
    digitLimit < count ∧ HasWhole text.toList count := by
  unfold read at h
  rcases hdocument : document text.toList with stop | d
  · rw [hdocument] at h
    cases stop with
    | unexpected what offset => cases h
    | tooManyDigits n =>
      cases h
      exact document_tooManyDigits hdocument
  · rw [hdocument] at h
    cases h

/-- A text whose whole numbers are short is read, or it is said where it cannot be read on. -/
theorem read_of_shortWholes {text : String} (h : ShortWholes text.toList) :
    (∃ d, read text = .ok d) ∨
      ∃ what offset line column, read text = .error (.unexpected what offset line column) := by
  rcases hread : read text with (⟨what, offset, line, column⟩ | count) | d
  · exact .inr ⟨what, offset, line, column, rfl⟩
  · obtain ⟨hlong, hwhole⟩ := read_tooManyDigits hread
    exact absurd (h count hwhole) (Nat.not_le_of_lt hlong)
  · exact .inl ⟨d, rfl⟩

theorem wholeOf_digits {cs : List Char} (hdigits : AllDigits cs) (hleading : cs.head? ≠ some '0') :
    wholeOf cs = cs := by
  have htake : (cs ++ []).takeWhile Char.isDigit = cs := takeWhile_digits hdigits nofun
  rw [List.append_nil] at htake
  unfold wholeOf
  rw [if_neg hleading, htake]

theorem numeral_digits {c : Char} {rest : List Char} (hdigits : AllDigits (c :: rest))
    (hleading : (c :: rest).head? ≠ some '0') (hlong : digitLimit < (c :: rest).length) :
    numeral ⟨c :: rest, 0⟩ = .error (.tooManyDigits (c :: rest).length) := by
  have hminus : (c :: rest).head? ≠ some '-' := by
    intro h
    exact digit_ne (hdigits c List.mem_cons_self) (by decide) (Option.some.inj h)
  have hskip := skip_append (c :: rest) [] 0
  rw [List.append_nil] at hskip
  rw [numeral_eq]
  simp only [if_neg hminus, wholeOf_digits hdigits hleading, hskip, fractionOf, powerOf, List.isEmpty_nil,
    List.isEmpty_cons, Bool.false_eq_true, if_false, if_true, Bool.and_self, gt_iff_lt, if_pos hlong]

/-- Digits alone are a whole number, and too many of them are not read. -/
theorem read_digits {cs : List Char} (hdigits : AllDigits cs) (hleading : cs.head? ≠ some '0')
    (hlong : digitLimit < cs.length) : read (String.ofList cs) = .error (.tooManyDigits cs.length) := by
  obtain ⟨c, rest, rfl⟩ : ∃ c rest, cs = c :: rest := by
    refine List.exists_cons_of_ne_nil ?_
    rintro rfl
    exact absurd hlong (by decide)
  have hc : c.isDigit = true := hdigits c List.mem_cons_self
  have hatom : atom ⟨c :: rest, 0⟩ = .error (.tooManyDigits (c :: rest).length) := by
    have hwords : (words.find? fun word => word.1.isPrefixOf (c :: rest)) = none := by
      rw [List.find?_eq_none]
      intro word hword hprefix
      obtain ⟨a, b, letters, hletters, ha, -⟩ := words_start word hword
      rw [hletters, List.isPrefixOf_iff_prefix] at hprefix
      exact digit_ne hc ha (List.cons_prefix_cons.1 hprefix).1.symm
    unfold atom
    dsimp only
    rw [hwords]
    exact numeral_digits hdigits hleading hlong
  have hspace : Cursor.skipSpace ⟨c :: rest, 0⟩ = ⟨c :: rest, 0⟩ := by
    refine skipSpace_none ?_ 0
    rintro _ ⟨⟩
    unfold isSpace
    simp [digit_ne hc (x := ' ') (by decide), digit_ne hc (x := '\t') (by decide),
      digit_ne hc (x := '\n') (by decide), digit_ne hc (x := '\r') (by decide)]
  have hmark : (c :: rest).head? ≠ some (Char.ofNat 0xFEFF) := by
    intro h
    exact digit_ne hc (by decide) (Option.some.inj h)
  unfold read
  rw [String.toList_ofList]
  unfold document
  rw [if_neg hmark, hspace, value_atom (digit_ne hc (by decide)) (digit_ne hc (by decide))
    (digit_ne hc (by decide)), hatom]
  rfl

end StoryRules.Json
