import StoryRules.Proofs.Decimal.Conversion

/-!
# The largest whole numbers

Every number that is not too small, and so every whole number above zero, lies among the reals that round to some
floating number, if exponents had no bound.  A whole number can be converted as long as the exponent of that number
is not too large, which is so up to half a unit behind the largest floating number.

    ofIntFloat? n = none ↔ wholeBound ≤ n.natAbs      (ofIntFloat?_eq_none_iff)
-/

namespace StoryRules.Decimal

open Float.Model UnpackedFloat Amount

/-! ## The number that holds a whole number -/

/-- A real with all bits of a mantissa lies among those that round to the nearest mantissa. -/
theorem Nearest.spans {r : ℕ} {t : ℚ} (h : Nearest r t) (hlow : 2 ^ 52 ≤ t) (e : ℤ) :
    (Binary.ofCanonical r e).Spans t := by
  refine ⟨?_, h.above⟩
  unfold Binary.lower Binary.ofCanonical
  dsimp only
  split
  · next hnarrow =>
    have hr : r = 2 ^ 52 := (of_decide_eq_true hnarrow).1
    left
    rw [hr]
    push_cast
    linarith
  · exact h.below

/-- A real whose nearest mantissa has one bit too many lies among those that round to the next power of
two. -/
theorem Nearest.spans_half {r : ℕ} {t : ℚ} (h : Nearest r t) (hr : 2 ^ 53 ≤ r) (hhigh : t < 2 ^ 53)
    {e : ℤ} (he : -1074 < e) : (Binary.ofCanonical (2 ^ 52) e).Spans (t / 2) := by
  have hbelow : (2 : ℚ) ^ 53 - 1 / 2 ≤ t := by
    have hge : (2 : ℚ) ^ 53 ≤ r := by exact_mod_cast hr
    rcases h.below with h | ⟨-, h⟩ <;> linarith
  have hlower : (Binary.ofCanonical (2 ^ 52) e).lower = 2 ^ 52 - 1 / 4 := by
    unfold Binary.lower Binary.ofCanonical
    rw [if_pos (decide_eq_true ⟨rfl, he⟩)]
    norm_num
  refine ⟨?_, .inl ?_⟩
  · rw [hlower]
    rcases hbelow.lt_or_eq with h | h
    · exact .inl (by linarith)
    · exact .inr ⟨(by decide : Even (2 ^ 52)), by linarith⟩
  · show _ < ((2 ^ 52 : ℕ) : ℚ) + 1 / 2
    push_cast
    linarith

/-- Every number that is not below zero has a nearest count. -/
theorem exists_nearest {t : ℚ} (ht : 0 ≤ t) : ∃ r, Nearest r t := by
  have hfloor := Nat.floor_le ht
  have hceil := Nat.lt_floor_add_one t
  generalize ⌊t⌋₊ = m at hfloor hceil
  rcases lt_trichotomy t (m + 1 / 2) with hlt | heq | hgt
  · exact ⟨m, .inl (by linarith), .inl hlt⟩
  · rcases Nat.even_or_odd m with heven | hodd
    · exact ⟨m, .inl (by linarith), .inr ⟨heven, heq⟩⟩
    · exact ⟨m + 1, .inr ⟨hodd.add_one, by push_cast; linarith⟩, .inl (by push_cast; linarith)⟩
  · exact ⟨m + 1, .inl (by push_cast; linarith), .inl (by push_cast; linarith)⟩

/-- A number with all bits of a mantissa at some exponent is held by a floating number. -/
theorem exists_holds_normal {q : ℚ} {T : ℤ} (hT : -1074 ≤ T) (hlow : 2 ^ 52 ≤ q / 2 ^ T) (hhigh : q / 2 ^ T < 2 ^ 53) :
    ∃ x : Binary, x.Regular ∧ 0 < x.mantissa ∧ x.Holds q := by
  obtain ⟨r, hnearest⟩ := exists_nearest (le_trans (by positivity) hlow)
  have hr : 2 ^ 52 ≤ r := by
    have hbelow : (2 : ℚ) ^ 52 - 1 < r := by rcases hnearest.above with h | ⟨-, h⟩ <;> linarith
    have hcount : (2 ^ 52 : ℕ) < r + 1 := by
      have : (2 : ℚ) ^ 52 < r + 1 := by linarith
      exact_mod_cast this
    exact Nat.lt_succ_iff.1 hcount
  by_cases hbits : r < 2 ^ 53
  · exact ⟨.ofCanonical r T, Binary.regular_ofCanonical ⟨hbits, hT, .inr hr⟩, (Nat.two_pow_pos 52).trans_le hr,
      hnearest.spans hlow T⟩
  · refine ⟨.ofCanonical (2 ^ 52) (T + 1), Binary.regular_ofCanonical ⟨by decide, by omega, .inr (Nat.le_refl _)⟩,
      Nat.two_pow_pos 52, ?_⟩
    show (Binary.ofCanonical (2 ^ 52) (T + 1)).Spans (q / 2 ^ (T + 1))
    rw [zpow_add_one₀ (by norm_num), ← div_div]
    exact hnearest.spans_half (Nat.le_of_not_lt hbits) hhigh (by omega)

/-- A number with fewer bits at the least exponent is held by a floating number too, if it is not too small. -/
theorem exists_holds_subnormal {q : ℚ} (hlow : 1 ≤ q / 2 ^ (-1074 : ℤ)) (hhigh : q / 2 ^ (-1074 : ℤ) < 2 ^ 52) :
    ∃ x : Binary, x.Regular ∧ 0 < x.mantissa ∧ x.Holds q := by
  obtain ⟨r, hnearest⟩ := exists_nearest (zero_le_one.trans hlow)
  have hpos : 0 < r := by
    have habove : (0 : ℚ) < r := by rcases hnearest.above with h | ⟨-, h⟩ <;> linarith
    exact_mod_cast habove
  have hbits : r < 2 ^ 53 := by
    have hbelow : (r : ℚ) < 2 ^ 53 := by rcases hnearest.below with h | ⟨-, h⟩ <;> linarith
    exact_mod_cast hbelow
  have hwide : (Binary.ofCanonical r (-1074)).lower = r - 1 / 2 := by
    unfold Binary.lower Binary.ofCanonical
    rw [if_neg (by simp)]
  refine ⟨.ofCanonical r (-1074), Binary.regular_ofCanonical ⟨hbits, le_rfl, .inl rfl⟩, hpos, ?_, hnearest.above⟩
  rw [hwide]
  exact hnearest.below

/-- Every number from the least floating number above zero on is held by one, if exponents have no bound. -/
theorem exists_holds {q : ℚ} (hq : 2 ^ (-1074 : ℤ) ≤ q) : ∃ x : Binary, x.Regular ∧ 0 < x.mantissa ∧ x.Holds q := by
  have hpos : 0 < q := lt_of_lt_of_le (by positivity) hq
  obtain ⟨k, hlow, hhigh⟩ := exists_mem_Ico_zpow hpos one_lt_two
  by_cases hk : -1074 ≤ k - 52
  · have hpower : (2 : ℚ) ^ k = 2 ^ 52 * 2 ^ (k - 52) := by
      rw [← zpow_natCast, ← zpow_add₀ (by norm_num)]
      congr 1
      push_cast
      ring
    refine exists_holds_normal hk ?_ ?_
    · rwa [le_div_iff₀ (by positivity), ← hpower]
    · rw [div_lt_iff₀ (by positivity)]
      rw [zpow_add_one₀ (by norm_num), hpower] at hhigh
      calc q < 2 ^ 52 * 2 ^ (k - 52) * 2 := hhigh
        _ = 2 ^ 53 * 2 ^ (k - 52) := by ring
  · refine exists_holds_subnormal ?_ ?_
    · rwa [le_div_iff₀ (by positivity), one_mul]
    · rw [div_lt_iff₀ (by positivity)]
      calc q < 2 ^ (k + 1) := hhigh
        _ ≤ 2 ^ ((52 : ℕ) + (-1074) : ℤ) := zpow_le_zpow_right₀ (by norm_num) (by push_cast; omega)
        _ = 2 ^ 52 * 2 ^ (-1074 : ℤ) := by rw [zpow_add₀ (by norm_num), zpow_natCast]

/-- In particular every count above zero. -/
theorem exists_holds_count {n : ℕ} (hn : 0 < n) : ∃ x : Binary, x.Regular ∧ 0 < x.mantissa ∧ x.Holds n := by
  refine exists_holds ?_
  have hone : (1 : ℚ) ≤ n := by exact_mod_cast hn
  exact (zpow_le_one_of_nonpos₀ (by norm_num) (by norm_num)).trans hone

/-! ## The bound -/

/-- The middle between the largest floating number and the next power of two. -/
def wholeBound : ℕ := (2 ^ 54 - 1) * 2 ^ 970

theorem wholeBound_pos : 0 < wholeBound := by
  unfold wholeBound
  exact Nat.mul_pos (by decide) (pow_pos two_pos 970)

/-- The exponent of the number that holds a real is that of a floating number just if the real lies below
the bound. -/
theorem Binary.Holds.exponent_le_iff {x : Binary} (hx : x.Regular) {q : ℚ} (h : x.Holds q) :
    x.exponent ≤ 971 ↔ q < wholeBound := by
  have hpower : (0 : ℚ) < 2 ^ x.exponent := by positivity
  have hbound : (wholeBound : ℚ) = (2 ^ 54 - 1) * 2 ^ 970 := by
    rw [wholeBound, Nat.cast_mul, Nat.cast_pow, Nat.cast_ofNat]
    congr 1
    norm_num
  have hnext : (2 : ℚ) ^ (971 : ℤ) = 2 ^ 970 * 2 := by rw [zpow_ofNat, pow_succ]
  have hlast : (2 : ℚ) ^ (972 : ℤ) = 2 ^ 970 * 2 * 2 := by rw [zpow_ofNat, pow_succ, pow_succ]
  rw [hbound]
  constructor
  · intro hmost
    have hscaled : q / 2 ^ x.exponent < 2 ^ 53 - 1 / 2 := by
      have hlt : x.mantissa + 1 ≤ 2 ^ 53 := hx.canonical.lt
      rcases h.above with habove | ⟨heven, habove⟩
      · have hmantissa : (x.mantissa : ℚ) + 1 ≤ 2 ^ 53 := by exact_mod_cast hlt
        linarith
      · -- the largest mantissa is odd
        have hne : x.mantissa + 2 ≤ 2 ^ 53 := by
          have := Nat.even_iff.1 heven
          omega
        have hmantissa : (x.mantissa : ℚ) + 2 ≤ 2 ^ 53 := by exact_mod_cast hne
        linarith
    calc q < (2 ^ 53 - 1 / 2) * 2 ^ x.exponent := (div_lt_iff₀ hpower).1 hscaled
      _ ≤ (2 ^ 53 - 1 / 2) * 2 ^ (971 : ℤ) :=
        mul_le_mul_of_nonneg_left (zpow_le_zpow_right₀ (by norm_num) hmost) (by norm_num)
      _ = (2 ^ 54 - 1) * 2 ^ 970 := by
        rw [hnext]
        generalize (2 : ℚ) ^ 970 = unit
        ring
  · intro hlt
    by_contra hlarge
    have hnormal : 2 ^ 52 ≤ x.mantissa := hx.canonical.normal.resolve_left (by omega)
    have hlower : (2 : ℚ) ^ 52 - 1 / 4 ≤ x.lower := by
      unfold Binary.lower
      split
      · have hmantissa : (2 : ℚ) ^ 52 ≤ x.mantissa := by exact_mod_cast hnormal
        linarith
      · next hwide =>
        have hne : x.mantissa ≠ 2 ^ 52 := fun hm => hwide (hx.narrow.2 ⟨hm, by omega⟩)
        have hmantissa : (2 : ℚ) ^ 52 + 1 ≤ x.mantissa := by
          exact_mod_cast Nat.lt_of_le_of_ne hnormal (Ne.symm hne)
        linarith
    have hscaled : (2 : ℚ) ^ 52 - 1 / 4 ≤ q / 2 ^ x.exponent := hlower.trans h.bounds.1
    refine absurd hlt (not_lt.2 ?_)
    calc (2 ^ 54 - 1) * 2 ^ 970 = (2 ^ 52 - 1 / 4) * (2 : ℚ) ^ (972 : ℤ) := by
          rw [hlast]
          generalize (2 : ℚ) ^ 970 = unit
          ring
      _ ≤ (2 ^ 52 - 1 / 4) * 2 ^ x.exponent :=
        mul_le_mul_of_nonneg_left (zpow_le_zpow_right₀ (by norm_num) (by omega)) (by norm_num)
      _ ≤ q := (le_div_iff₀ hpower).1 hscaled

end StoryRules.Decimal

namespace StoryRules.Amount

open Float.Model UnpackedFloat Decimal

/-! ## Conversion -/

/-- A count above zero is converted to the number that holds it, or to infinity if there is none. -/
theorem unpack_ofNat {n : ℕ} (hn : 0 < n) : ∃ (x : Binary) (hpos : 0 < x.mantissa), x.Regular ∧ x.Holds n ∧
    (Float.ofNat n).toModel.unpack =
      if n < wholeBound then .finite .positive x.mantissa x.exponent hpos else .infinity .positive := by
  obtain ⟨x, hx, hpos, hholds⟩ := exists_holds_count hn
  have hconvert : Float.ofNat n =
      Float.ofModel (Float.Model.pack (.finite .positive x.mantissa x.exponent hpos)) :=
    Binary.Holds.ofScientific_mul hx hpos hn (Nat.zero_le 400) (by simpa using hholds)
  have hbound : x.exponent ≤ 971 ↔ n < wholeBound := by
    rw [hholds.exponent_le_iff hx, Nat.cast_lt]
  refine ⟨x, hpos, hx, hholds, ?_⟩
  rw [hconvert]
  refine (unpack_pack_finite .positive hpos hx.canonical).trans ?_
  simp only [hbound]

theorem isInf_ofNat {n : ℕ} : (Float.ofNat n).isInf = true ↔ wholeBound ≤ n := by
  rcases Nat.eq_zero_or_pos n with rfl | hn
  · exact iff_of_false (by decide) (Nat.not_le.2 wholeBound_pos)
  · obtain ⟨x, hpos, -, -, hunpack⟩ := unpack_ofNat hn
    have hinf : (Float.ofNat n).isInf = (Float.ofNat n).toModel.unpack.isInf := rfl
    rw [hinf, hunpack]
    split
    · next hlt => exact iff_of_false Bool.false_ne_true (Nat.not_le.2 hlt)
    · next hge => exact iff_of_true rfl (Nat.not_lt.1 hge)

/-- Negating is exact. -/
theorem unpack_neg (x : Float) : x.neg.toModel.unpack = x.toModel.unpack.neg := by
  show UnpackedFloat.unpack Format.binary64
    (UnpackedFloat.pack Format.binary64 x.toModel.unpack.neg) = _
  cases h : x.toModel.unpack with
  | notANumber => rfl
  | infinity s => cases s <;> rfl
  | zero s => cases s <;> rfl
  | finite s m e hm =>
    obtain ⟨-, -, hcanonical, hmost⟩ := unpack_finite (b := x.toBits) h
    exact (unpack_pack_finite (-s) hm hcanonical).trans (if_pos hmost)

theorem isInf_neg (x : Float) : x.neg.isInf = x.isInf := by
  show x.neg.toModel.unpack.isInf = x.toModel.unpack.isInf
  rw [unpack_neg]
  cases x.toModel.unpack <;> rfl

theorem isInf_ofInt (n : ℤ) : (Float.ofInt n).isInf = true ↔ wholeBound ≤ n.natAbs := by
  cases n with
  | ofNat n => exact isInf_ofNat
  | negSucc n =>
    show (Float.ofNat n.succ).neg.isInf = true ↔ _
    rw [isInf_neg, isInf_ofNat]
    rfl

/-- A whole number cannot be converted from the middle between the largest floating number and the next
power of two on. -/
theorem ofIntFloat?_eq_none_iff (n : ℤ) : ofIntFloat? n = none ↔ wholeBound ≤ n.natAbs := by
  rw [← isInf_ofInt]
  unfold ofIntFloat?
  dsimp only
  split <;> simp [*]

end StoryRules.Amount
