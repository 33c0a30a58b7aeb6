import StoryRules.Proofs.Decimal.Rounding

/-!
# Shortest decimals are held

The comparisons of the two scales are those of the values, so a decimal reads back exactly if its value is
among the reals of the floating number; and the decimal that is found for a floating number reads back.

    x.readsBack d = true ↔ x.Holds d.value      (readsBack_iff)
    x.Holds x.shortest.value                    (holds_shortest)
-/

namespace StoryRules.Decimal

/-! ## Comparing -/

/-- The value of a decimal. -/
def Scientific.value (d : Scientific) : ℚ := d.digits * 10 ^ d.exponent

theorem cast_twoPower (k : ℤ) : (twoPower k : ℚ) = 2 ^ k.toNat := Nat.cast_pow 2 _

theorem cast_tenPower (k : ℤ) : (tenPower k : ℚ) = 10 ^ k.toNat := Nat.cast_pow 10 _

/-- A power as the one with the positive part of its exponent over the one with the negative part. -/
theorem pow_toNat {b : ℚ} (hb : b ≠ 0) (k : ℤ) : b ^ k.toNat = b ^ k * b ^ (-k).toNat := by
  rw [← zpow_natCast, ← zpow_natCast, ← zpow_add₀ hb]
  congr 1
  omega

/-- Cross-multiplied naturals compare as the values do. -/
theorem compareScaled_eq (a : ℕ) (i : ℤ) (b : ℕ) (j : ℤ) :
    compareScaled a i b j = compare ((a : ℚ) * 10 ^ i) (b * 2 ^ j) := by
  have hscale : (0 : ℚ) < 10 ^ (-i).toNat * 2 ^ (-j).toNat := by positivity
  have hleft : ((a * tenPower i * twoPower (-j) : ℕ) : ℚ) =
      a * 10 ^ i * (10 ^ (-i).toNat * 2 ^ (-j).toNat) := by
    push_cast
    rw [cast_tenPower, cast_twoPower, pow_toNat (by norm_num) i]
    ring
  have hright : ((b * twoPower j * tenPower (-i) : ℕ) : ℚ) =
      b * 2 ^ j * (10 ^ (-i).toNat * 2 ^ (-j).toNat) := by
    push_cast
    rw [cast_tenPower, cast_twoPower, pow_toNat (by norm_num) j]
    ring
  calc compareScaled a i b j
      = cmp (a * tenPower i * twoPower (-j)) (b * twoPower j * tenPower (-i)) := (cmp_eq_compare _ _).symm
    _ = cmp ((a * tenPower i * twoPower (-j) : ℕ) : ℚ) (b * twoPower j * tenPower (-i) : ℕ) :=
      (Nat.strictMono_cast.cmp_map_eq _ _).symm
    _ = cmp ((a : ℚ) * 10 ^ i) (b * 2 ^ j) := by rw [hleft, hright, cmp_mul_pos_right hscale]
    _ = compare ((a : ℚ) * 10 ^ i) (b * 2 ^ j) := cmp_eq_compare _ _

/-- A decimal against quarters of the mantissa's unit. -/
theorem compareScaled_quarters (d : Scientific) (n : ℕ) (e : ℤ) :
    compareScaled d.digits d.exponent n (e - 2) = compare (d.value / 2 ^ e) (n / 4 : ℚ) := by
  have hpower : (0 : ℚ) < 2 ^ e := by positivity
  have hvalue : (d.digits : ℚ) * 10 ^ d.exponent = d.value / 2 ^ e * 2 ^ e :=
    (div_mul_cancel₀ _ hpower.ne').symm
  have hquarters : (n : ℚ) * 2 ^ (e - 2) = n / 4 * 2 ^ e := by
    rw [zpow_sub₀ (by norm_num)]
    ring
  rw [compareScaled_eq, hvalue, hquarters, ← cmp_eq_compare, cmp_mul_pos_right hpower, cmp_eq_compare]

/-- A decimal reads back as a floating number if and only if the number holds its value. -/
theorem readsBack_iff {x : Binary} (hpos : 0 < x.mantissa) (d : Scientific) :
    x.readsBack d = true ↔ x.Holds d.value := by
  have hlow : (((if x.narrowBelow then 4 * x.mantissa - 1 else 4 * x.mantissa - 2) : ℕ) : ℚ) / 4 =
      x.lower := by
    unfold Binary.lower
    split
    · rw [Nat.cast_sub (by omega)]
      push_cast
      ring
    · rw [Nat.cast_sub (by omega)]
      push_cast
      ring
  have hhigh : ((4 * x.mantissa + 2 : ℕ) : ℚ) / 4 = x.mantissa + 1 / 2 := by
    push_cast
    ring
  unfold Binary.readsBack
  dsimp only
  rw [compareScaled_quarters, compareScaled_quarters, hlow, hhigh]
  simp only [Bool.and_eq_true, Bool.or_eq_true, decide_eq_true_eq, compare_gt_iff_gt,
    compare_lt_iff_lt, compare_eq_iff_eq, ← Nat.even_iff]
  constructor
  · rintro ⟨hbelow, habove⟩
    exact ⟨hbelow.imp id fun h => ⟨h.1, h.2.symm⟩, habove⟩
  · rintro ⟨hbelow, habove⟩
    exact ⟨hbelow.imp id fun h => ⟨h.1, h.2.symm⟩, habove⟩

/-! ## Finding -/

theorem readsBack_nearestOnGrid? {x : Binary} {k : ℤ} {d : Scientific}
    (h : x.nearestOnGrid? k = some d) : x.readsBack d = true ∧ d.exponent = k := by
  unfold Binary.nearestOnGrid? at h
  dsimp only at h
  split at h
  · cases h
  · next hlow _ =>
    cases h
    exact ⟨hlow, rfl⟩
  · next _ hhigh =>
    cases h
    exact ⟨hhigh, rfl⟩
  · next hlow hhigh =>
    split at h
    · cases h
      exact ⟨hlow, rfl⟩
    · cases h
      exact ⟨hhigh, rfl⟩
    · split at h
      · cases h
        exact ⟨hlow, rfl⟩
      · cases h
        exact ⟨hhigh, rfl⟩

/-- Zeros move into the exponent without a change of value. -/
theorem value_stripZeros (steps : ℕ) (d : Scientific) :
    (d.stripZeros steps).value = d.value ∧ d.exponent ≤ (d.stripZeros steps).exponent := by
  induction steps generalizing d with
  | zero => exact ⟨rfl, le_rfl⟩
  | succ steps ih =>
    unfold Scientific.stripZeros
    split
    · next hzero =>
      obtain ⟨hvalue, hexponent⟩ := ih ⟨d.digits / 10, d.exponent + 1⟩
      refine ⟨hvalue.trans ?_, le_trans (by simp) hexponent⟩
      have hdigits : (d.digits : ℚ) = (d.digits / 10 : ℕ) * 10 := by
        exact_mod_cast (Nat.div_mul_cancel (Nat.dvd_of_mod_eq_zero hzero)).symm
      unfold Scientific.value
      rw [hdigits, zpow_add_one₀ (by norm_num)]
      ring
    · exact ⟨rfl, le_rfl⟩

theorem value_exact (x : Binary) : x.exact.value = x.value := by
  have hfive : ((Nat.pow 5 (-x.exponent).toNat : ℕ) : ℚ) = 5 ^ (-x.exponent).toNat := Nat.cast_pow 5 _
  unfold Binary.exact Scientific.value Binary.value
  dsimp only
  push_cast
  rw [hfive, cast_twoPower]
  rcases le_total 0 x.exponent with h | h
  · obtain ⟨n, hn⟩ := Int.eq_ofNat_of_zero_le h
    simp [hn]
  · obtain ⟨n, hn⟩ := Int.eq_ofNat_of_zero_le (Int.neg_nonneg_of_nonpos h)
    have hten : (10 : ℚ) ^ n = 2 ^ n * 5 ^ n := by
      rw [← mul_pow]
      norm_num
    rw [hn, min_eq_left h, Int.toNat_of_nonpos h, Int.toNat_natCast, ← neg_neg x.exponent, hn,
      zpow_neg, zpow_neg, zpow_natCast, zpow_natCast, hten]
    field_simp

/-- A decimal that a positive number holds is not zero. -/
theorem Binary.Holds.digits_pos {x : Binary} (hpos : 0 < x.mantissa) {d : Scientific} (h : x.Holds d.value) :
    0 < d.digits := by
  rcases Nat.eq_zero_or_pos d.digits with hzero | hdigits
  · exfalso
    have hvalue : d.value / 2 ^ x.exponent = 0 := by
      simp [Scientific.value, hzero]
    have hle : x.lower ≤ d.value / 2 ^ x.exponent := h.below.elim le_of_lt fun h => h.2.le
    have hmantissa : (1 : ℚ) ≤ x.mantissa := by exact_mod_cast hpos
    have := x.half_le_lower
    linarith
  · exact hdigits

/-- The exponent of the shortest decimal is not far below that of the value. -/
theorem le_scale {x : Binary} (hleast : -1074 ≤ x.exponent) : -325 ≤ x.scale := by
  unfold Binary.scale
  dsimp only
  split <;> omega

/-- A floating number holds its shortest decimal. -/
theorem holds_shortest {x : Binary} (hpos : 0 < x.mantissa) (hleast : -1074 ≤ x.exponent) :
    x.Holds x.shortest.value ∧ -1074 ≤ x.shortest.exponent := by
  unfold Binary.shortest
  dsimp only
  split
  · next d hd =>
    obtain ⟨n, hn, hgrid⟩ := List.exists_of_findSome?_eq_some hd
    obtain ⟨hreads, hexponent⟩ := readsBack_nearestOnGrid? hgrid
    obtain ⟨hvalue, hle⟩ := value_stripZeros 20 d
    have hscale := le_scale hleast
    rw [List.mem_range] at hn
    refine ⟨?_, by omega⟩
    rw [hvalue]
    exact (readsBack_iff hpos d).1 hreads
  · refine ⟨?_, by unfold Binary.exact; dsimp only; omega⟩
    rw [value_exact]
    exact x.holds_value hpos

end StoryRules.Decimal
