import StoryRules.Proofs.Decimal.Shortest

/-!
# Decimals are converted to the number that holds them

A numeral is a product with a power of ten or a quotient by one, in floating numbers if it is small.
Either is located with all the bits that count, and no numeral that a floating number holds is taken for
too large or too small.

    x.Holds d.value → d.toFloat = x      (toFloat_eq)
-/

namespace StoryRules.Decimal

open Float.Model UnpackedFloat Amount

/-! ## Products and quotients -/

/-- The floating number with a mantissa and an exponent. -/
def Binary.ofCanonical (m : ℕ) (e : ℤ) : Binary := ⟨m, e, decide (m = 2 ^ 52 ∧ -1074 < e)⟩

theorem Binary.regular_ofCanonical {m : ℕ} {e : ℤ} (h : Canonical m e) : (ofCanonical m e).Regular :=
  ⟨h, decide_eq_true_iff⟩

section

variable {x : Binary} (hx : x.Regular) (hpos : 0 < x.mantissa) {m₁ m₂ : ℕ} {e₁ e₂ : ℤ}
  {hm₁ : 0 < m₁} {hm₂ : 0 < m₂}

include hx

/-- A product with enough bits is the number that holds it. -/
theorem Binary.Holds.mul_eq (hq : x.Holds (m₁ * 2 ^ e₁ * (m₂ * 2 ^ e₂))) (he : -1074 ≤ e₁ + e₂)
    (hbits : 2 ^ 52 ≤ m₁ * m₂) :
    UnpackedFloat.mul Format.binary64 (.finite .positive m₁ e₁ hm₁) (.finite .positive m₂ e₂ hm₂) =
      .finite .positive x.mantissa x.exponent hpos := by
  have hlog : 52 ≤ (m₁ * m₂).log2 := (Nat.le_log2 (by omega)).2 hbits
  have hloc : Locates (.ofMantissaAndAccuracy (m₁ * m₂) .exact)
      (m₁ * 2 ^ e₁ * (m₂ * 2 ^ e₂) / 2 ^ (e₁ + e₂)) := by
    show _ = ((m₁ * m₂ : ℕ) : ℚ)
    rw [zpow_add₀ (by norm_num)]
    push_cast
    field_simp
  exact hq.roundWithAccuracy_eq hx hpos he (.inr hlog) hloc .positive

omit hx in
/-- A quotient is located by its whole part and what is left. -/
theorem locates_quotient (n : ℕ) {m : ℕ} (hm : 0 < m) :
    Locates (.ofMantissaAndAccuracy (n / m) (accuracyOfFraction (n % m) m)) (n / m : ℚ) := by
  have hm' : (0 : ℚ) < m := by exact_mod_cast hm
  have hlt : ((n % m : ℕ) : ℚ) < m := by exact_mod_cast Nat.mod_lt n hm
  have hparts : (n : ℚ) / m = (n / m : ℕ) + (n % m : ℕ) / m := by
    rw [div_eq_iff hm'.ne', add_mul, div_mul_cancel₀ _ hm'.ne']
    exact_mod_cast (Nat.div_add_mod' n m).symm
  unfold accuracyOfFraction
  rw [hparts]
  split
  · next hzero =>
    rw [hzero]
    show _ = ((n / m : ℕ) : ℚ)
    simp
  · next hrest =>
    have hfraction : (0 : ℚ) < (n % m : ℕ) / m :=
      div_pos (by exact_mod_cast Nat.pos_of_ne_zero hrest) hm'
    rcases lt_trichotomy (2 * (n % m)) m with h | h | h
    · rw [compare_lt_iff_lt.2 h]
      have hhalf : ((n % m : ℕ) : ℚ) / m < 1 / 2 := by
        rw [div_lt_div_iff₀ hm' (by norm_num)]
        have : (2 * (n % m : ℕ) : ℚ) < m := by exact_mod_cast h
        linarith
      exact ⟨by show ((n / m : ℕ) : ℚ) < _; linarith, by show _ < ((n / m : ℕ) : ℚ) + _; linarith⟩
    · rw [compare_eq_iff_eq.2 h]
      have hhalf : ((n % m : ℕ) : ℚ) / m = 1 / 2 := by
        rw [div_eq_div_iff hm'.ne' (by norm_num)]
        have : (2 * (n % m : ℕ) : ℚ) = m := by exact_mod_cast h
        linarith
      show _ = ((n / m : ℕ) : ℚ) + _
      rw [hhalf]
    · rw [compare_gt_iff_gt.2 h]
      have hhalf : 1 / 2 < ((n % m : ℕ) : ℚ) / m := by
        rw [div_lt_div_iff₀ (by norm_num) hm']
        have : (m : ℚ) < 2 * (n % m : ℕ) := by exact_mod_cast h
        linarith
      have hone : ((n % m : ℕ) : ℚ) / m < 1 := (div_lt_one hm').2 hlt
      exact ⟨by show ((n / m : ℕ) : ℚ) + _ < _; linarith, by show _ < ((n / m : ℕ) : ℚ) + _; linarith⟩

omit hx in
/-- A dividend that was shifted far enough gives a quotient with all 53 bits. -/
theorem quotient_bits (hm₁ : 0 < m₁) (hm₂ : 0 < m₂) {k : ℕ} (hk : m₂.log2 + 53 ≤ m₁.log2 + k) :
    52 ≤ (m₁ * 2 ^ k / m₂).log2 := by
  have hle : 2 ^ 52 ≤ m₁ * 2 ^ k / m₂ := by
    rw [Nat.le_div_iff_mul_le hm₂]
    calc 2 ^ 52 * m₂ ≤ 2 ^ 52 * 2 ^ (m₂.log2 + 1) := Nat.mul_le_mul_left _ Nat.lt_log2_self.le
      _ = 2 ^ (52 + (m₂.log2 + 1)) := (Nat.pow_add ..).symm
      _ ≤ 2 ^ (m₁.log2 + k) := Nat.pow_le_pow_right (by decide) (by omega)
      _ = 2 ^ m₁.log2 * 2 ^ k := Nat.pow_add ..
      _ ≤ m₁ * 2 ^ k := Nat.mul_le_mul_right _ (Nat.log2_self_le hm₁.ne')
  have hne : m₁ * 2 ^ k / m₂ ≠ 0 := by omega
  exact (Nat.le_log2 hne).2 hle

/-- A quotient is the number that holds it. -/
theorem Binary.Holds.div_eq (hq : x.Holds (m₁ * 2 ^ e₁ / (m₂ * 2 ^ e₂))) (he : -1074 ≤ e₁ - e₂) :
    UnpackedFloat.div Format.binary64 (.finite .positive m₁ e₁ hm₁) (.finite .positive m₂ e₂ hm₂) =
      .finite .positive x.mantissa x.exponent hpos := by
  have htarget : Format.binary64.targetExponent (totalExponent m₁ e₁ - totalExponent m₂ e₂) =
    max (m₁.log2 + 1 + e₁ - (m₂.log2 + 1 + e₂) - 53) (-1074) := rfl
  show (let (m, e, acc) := divCore Format.binary64 m₁ e₁ m₂ e₂
    roundWithAccuracy Format.binary64 (Sign.positive / Sign.positive) m e acc) = _
  unfold divCore
  dsimp only
  rw [htarget, Nat.shiftLeft_eq]
  generalize hT : min (e₁ - e₂) (max (m₁.log2 + 1 + e₁ - (m₂.log2 + 1 + e₂) - 53) (-1074)) = T
  obtain ⟨k, hk⟩ : ∃ k : ℕ, e₁ - e₂ - T = k := ⟨(e₁ - e₂ - T).toNat, by omega⟩
  rw [hk, Int.toNat_natCast]
  have hloc : Locates (.ofMantissaAndAccuracy (m₁ * 2 ^ k / m₂) (accuracyOfFraction (m₁ * 2 ^ k % m₂) m₂))
      (m₁ * 2 ^ e₁ / (m₂ * 2 ^ e₂) / 2 ^ T) := by
    have hscaled : (m₁ * 2 ^ e₁ / (m₂ * 2 ^ e₂) / 2 ^ T : ℚ) = (m₁ * 2 ^ k : ℕ) / m₂ := by
      obtain rfl : e₁ = k + T + e₂ := by omega
      rw [zpow_add₀ (by norm_num), zpow_add₀ (by norm_num), zpow_natCast]
      push_cast
      field_simp
    rw [hscaled]
    exact locates_quotient _ hm₂
  have hbits : T = -1074 ∨ 52 ≤ (m₁ * 2 ^ k / m₂).log2 := by
    by_cases hleast : T = -1074
    · exact .inl hleast
    · exact .inr (quotient_bits hm₁ hm₂ (by omega))
  exact hq.roundWithAccuracy_eq hx hpos (by omega) hbits hloc _

end

/-! ## Small numerals -/

/-- The mantissa of a small count, with all 53 bits. -/
theorem count_bits {n : ℕ} (hn : 0 < n) (hlog : n.log2 ≤ 52) :
    2 ^ 52 ≤ n * 2 ^ (52 - n.log2) ∧ n * 2 ^ (52 - n.log2) < 2 ^ 53 := by
  constructor
  · calc 2 ^ 52 = 2 ^ (n.log2 + (52 - n.log2)) := by rw [Nat.add_sub_cancel' hlog]
      _ = 2 ^ n.log2 * 2 ^ (52 - n.log2) := Nat.pow_add ..
      _ ≤ n * 2 ^ (52 - n.log2) := Nat.mul_le_mul_right _ (Nat.log2_self_le hn.ne')
  · calc n * 2 ^ (52 - n.log2) < 2 ^ (n.log2 + 1) * 2 ^ (52 - n.log2) :=
          Nat.mul_lt_mul_of_pos_right Nat.lt_log2_self (Nat.two_pow_pos _)
      _ = 2 ^ (n.log2 + 1 + (52 - n.log2)) := (Nat.pow_add ..).symm
      _ = 2 ^ 53 := by congr 1; omega

/-- A small count is rounded to itself. -/
theorem round_count {n : ℕ} (hn : 0 < n) (hlog : n.log2 ≤ 52) (hm : 0 < n * 2 ^ (52 - n.log2))
    (hcanonical : Canonical (n * 2 ^ (52 - n.log2)) (-(52 - n.log2 : ℕ))) :
    UnpackedFloat.ofNat Format.binary64 n =
      .finite .positive (n * 2 ^ (52 - n.log2)) (-(52 - n.log2 : ℕ)) hm := by
  have htarget : Format.binary64.targetExponent (totalExponent n 0) =
    max ((n.log2 : ℤ) + 1 + 0 - 53) (-1074) := rfl
  have hshift : (0 - max ((n.log2 : ℤ) + 1 + 0 - 53) (-1074)).toNat = 52 - n.log2 := by omega
  have hbits : 52 ≤ (n * 2 ^ (52 - n.log2)).log2 := (Nat.le_log2 hm.ne').2 (count_bits hn hlog).1
  unfold UnpackedFloat.ofNat UnpackedFloat.ofInt UnpackedFloat.normalize
  rw [Int.compare_eq_gt.2 (by exact_mod_cast hn)]
  unfold UnpackedFloat.round decreaseExponent
  dsimp only
  rw [Int.toNat_natCast, htarget, hshift, Nat.shiftLeft_eq, Int.zero_sub]
  refine Binary.Holds.roundWithAccuracy_eq (Binary.regular_ofCanonical hcanonical) hm
    ((Binary.ofCanonical _ _).holds_value hm) (by omega) (.inr hbits) ?_ .positive
  show _ = ((n * 2 ^ (52 - n.log2) : ℕ) : ℚ)
  unfold Binary.value Binary.ofCanonical
  dsimp only
  field_simp

/-- A small count is converted exactly. -/
theorem unpack_count {n : ℕ} (hn : 0 < n) (hlt : n < 2 ^ 53) :
    ∃ hm, n.toUInt64.toFloat.toModel.unpack =
      .finite .positive (n * 2 ^ (52 - n.log2)) (-(52 - n.log2 : ℕ)) hm := by
  have hlog : n.log2 ≤ 52 := Nat.lt_succ_iff.1 ((Nat.log2_lt hn.ne').2 hlt)
  have hm : 0 < n * 2 ^ (52 - n.log2) := Nat.mul_pos hn (Nat.two_pow_pos _)
  obtain ⟨hlow, hhigh⟩ := count_bits hn hlog
  have hcanonical : Canonical (n * 2 ^ (52 - n.log2)) (-(52 - n.log2 : ℕ)) :=
    ⟨hhigh, by omega, .inr hlow⟩
  have hcount : n.toUInt64.toNat = n := UInt64.toNat_ofNat_of_lt' (hlt.trans (by decide))
  refine ⟨hm, ?_⟩
  show UnpackedFloat.unpack Format.binary64 (UnpackedFloat.pack Format.binary64
    (UnpackedFloat.ofNat Format.binary64 n.toUInt64.toNat)) = _
  rw [hcount, round_count hn hlog hm hcanonical, unpack_pack_finite .positive hm hcanonical,
    if_pos (by omega)]

/-- The bits that a small count is filled up with do not change it. -/
theorem count_value (n k : ℕ) : ((n * 2 ^ k : ℕ) * 2 ^ (-k : ℤ) : ℚ) = n := by
  rw [zpow_neg, zpow_natCast]
  push_cast
  rw [mul_assoc (n : ℚ), mul_inv_cancel₀ (by positivity), mul_one]

/-- The mantissa of a power of ten, with all 53 bits. -/
def tenMantissa (n : ℕ) : ℕ := 10 ^ n * 2 ^ 52 / 2 ^ (10 ^ n).log2

/-- The powers of ten that small numerals are scaled by are exact. -/
theorem powers_exact : ∀ n : Fin Float.exactlyRepresentablePowersOfTen.size, ∃ hm : 0 < tenMantissa n,
    Float.exactlyRepresentablePowersOfTen[n].toModel.toBits.toBitVec =
      UnpackedFloat.pack Format.binary64
        (.finite .positive (tenMantissa n) ((10 ^ n.val).log2 - 52) hm) ∧
    tenMantissa n * 2 ^ (10 ^ n.val).log2 = 10 ^ n.val * 2 ^ 52 ∧
    2 ^ 52 ≤ tenMantissa n ∧ tenMantissa n < 2 ^ 53 ∧ (10 ^ n.val).log2 ≤ 73 := by
  decide +kernel

/-- A power of ten that small numerals are scaled by, as it is read from its bits. -/
theorem unpack_power {n : ℕ} (hn : n < Float.exactlyRepresentablePowersOfTen.size) :
    ∃ p k hp, Float.exactlyRepresentablePowersOfTen[n].toModel.unpack = .finite .positive p k hp ∧
      (p * 2 ^ k : ℚ) = 10 ^ n ∧ 2 ^ 52 ≤ p ∧ -52 ≤ k ∧ k ≤ 21 := by
  obtain ⟨hm, hbits, hvalue, hlow, hhigh, hlog⟩ := powers_exact ⟨n, hn⟩
  dsimp only at hm hbits hvalue hlow hhigh hlog
  have hcanonical : Canonical (tenMantissa n) ((10 ^ n).log2 - 52) := ⟨hhigh, by omega, .inr hlow⟩
  refine ⟨tenMantissa n, (10 ^ n).log2 - 52, hm, ?_, ?_, hlow, by omega, by omega⟩
  · show UnpackedFloat.unpack Format.binary64
      Float.exactlyRepresentablePowersOfTen[n].toModel.toBits.toBitVec = _
    refine (congrArg (UnpackedFloat.unpack Format.binary64) hbits).trans ?_
    rw [unpack_pack_finite .positive hm hcanonical, if_pos (by omega)]
  · rw [zpow_sub₀ (by norm_num), zpow_natCast, ← mul_div_assoc, div_eq_iff (by positivity)]
    exact_mod_cast hvalue

/-! ## Converting -/

/-- An exponent of this size is taken neither for infinite nor for zero at once. -/
theorem exponent_fits (n : ℕ) {e : ℤ} (hmost : e ≤ 400) (hleast : -1074 ≤ e) :
    ¬ e > 2 ^ Format.binary64.exponentBits ∧
      ¬ e < -((2 ^ Format.binary64.exponentBits : ℤ) + n.log2) := by
  have hpower : (2 ^ Format.binary64.exponentBits : ℤ) = 2048 := rfl
  rw [hpower]
  omega

section

variable {x : Binary} (hx : x.Regular) (hpos : 0 < x.mantissa) {n k : ℕ}

include hx

/-- A numeral with a power of ten behind it. -/
theorem Binary.Holds.ofScientific_mul (hn : 0 < n) (hk : k ≤ 400) (hq : x.Holds (n * 10 ^ k)) :
    Float.ofScientific n false k =
      Float.ofModel (Float.Model.pack (.finite .positive x.mantissa x.exponent hpos)) := by
  unfold Float.ofScientific
  split
  · next hsmall =>
    obtain ⟨hm, hcount⟩ := unpack_count hn hsmall.1
    have hsize : k < Float.exactlyRepresentablePowersOfTen.size := Nat.lt_succ_of_le hsmall.2
    obtain ⟨p, j, hp, hpower, hvalue, hlow, hleast, -⟩ := unpack_power hsize
    dsimp only
    rw [if_neg Bool.false_ne_true]
    show Float.ofModel (Float.Model.pack (UnpackedFloat.mul Format.binary64
      n.toUInt64.toFloat.toModel.unpack Float.exactlyRepresentablePowersOfTen[k].toModel.unpack)) = _
    rw [hcount, hpower]
    congr 2
    refine Binary.Holds.mul_eq hx hpos ?_ (by omega) ?_
    · rwa [hvalue, count_value]
    · calc 2 ^ 52 ≤ p := hlow
        _ ≤ n * 2 ^ (52 - n.log2) * p := Nat.le_mul_of_pos_left p hm
  · next hlarge =>
    obtain ⟨hfits, hlast⟩ := exponent_fits n (e := k) (by omega) (by omega)
    rw [if_neg Bool.false_ne_true]
    show Float.ofModel (Float.Model.pack (UnpackedFloat.ofScientific Format.binary64 n k)) = _
    unfold UnpackedFloat.ofScientific
    rw [dif_neg hn.ne', if_neg hfits, if_neg hlast, if_pos (by omega)]
    congr 2
    have hbits : Format.binary64.mantissaBits = 53 := rfl
    have hvalue : (n * 10 ^ k : ℚ) = (n * 2 ^ 53 : ℕ) * 2 ^ (-53 : ℤ) * ((10 ^ k : ℕ) * 2 ^ (0 : ℤ)) := by
      push_cast
      norm_num
      ring
    have hlow : 2 ^ 52 ≤ n * 2 ^ 53 * 10 ^ k := by
      calc 2 ^ 52 ≤ n * 2 ^ 53 := by omega
        _ ≤ n * 2 ^ 53 * 10 ^ k := Nat.le_mul_of_pos_right _ (by positivity)
    rw [hvalue] at hq
    simp only [Nat.shiftLeft_eq, hbits, Int.toNat_natCast]
    exact hq.mul_eq hx hpos (by decide) hlow

/-- A numeral with a power of ten below it. -/
theorem Binary.Holds.ofScientific_div (hn : 0 < n) (hk : 0 < k) (hk' : k ≤ 1074) (hq : x.Holds (n / 10 ^ k)) :
    Float.ofScientific n true k =
      Float.ofModel (Float.Model.pack (.finite .positive x.mantissa x.exponent hpos)) := by
  unfold Float.ofScientific
  split
  · next hsmall =>
    obtain ⟨hm, hcount⟩ := unpack_count hn hsmall.1
    have hsize : k < Float.exactlyRepresentablePowersOfTen.size := Nat.lt_succ_of_le hsmall.2
    obtain ⟨p, j, hp, hpower, hvalue, -, -, hmost⟩ := unpack_power hsize
    dsimp only
    rw [if_pos rfl]
    show Float.ofModel (Float.Model.pack (UnpackedFloat.div Format.binary64
      n.toUInt64.toFloat.toModel.unpack Float.exactlyRepresentablePowersOfTen[k].toModel.unpack)) = _
    rw [hcount, hpower]
    congr 2
    refine Binary.Holds.div_eq hx hpos ?_ (by omega)
    rwa [hvalue, count_value]
  · next hlarge =>
    have hneg : Int.negOfNat k = -k := Int.negOfNat_eq
    obtain ⟨hfits, hlast⟩ := exponent_fits n (e := -k) (by omega) (by omega)
    rw [if_pos rfl]
    show Float.ofModel (Float.Model.pack (UnpackedFloat.ofScientific Format.binary64 n
      (Int.negOfNat k))) = _
    unfold UnpackedFloat.ofScientific
    rw [hneg, dif_neg hn.ne', if_neg hfits, if_neg hlast, if_neg (by omega)]
    congr 2
    refine Binary.Holds.div_eq hx hpos ?_ (by decide)
    rw [zpow_zero, mul_one, mul_one, neg_neg, Int.toNat_natCast]
    push_cast
    exact hq

end

/-! ## Range -/

section

variable {p q : ℕ}

/-- A fraction that is not below the logarithm of two to base ten gives enough decimal digits. -/
theorem two_pow_lt (hbase : 2 ^ q ≤ 10 ^ p) (hq : 0 < q) (n : ℕ) : 2 ^ n < 10 ^ (n * p / q + 1) := by
  refine lt_of_pow_lt_pow_left₀ q (Nat.zero_le _) ?_
  calc (2 ^ n) ^ q = (2 ^ q) ^ n := pow_right_comm ..
    _ ≤ (10 ^ p) ^ n := Nat.pow_le_pow_left hbase n
    _ = 10 ^ (p * n) := (pow_mul ..).symm
    _ < 10 ^ ((n * p / q + 1) * q) :=
      Nat.pow_lt_pow_right (by decide) (mul_comm p n ▸ Nat.lt_mul_of_div_lt (Nat.lt_succ_self _) hq)
    _ = (10 ^ (n * p / q + 1)) ^ q := pow_mul ..

/-- A fraction that is hardly above that logarithm gives few decimal digits too many. -/
theorem ten_pow_le (hbase : 10 ^ p ≤ 10 * 2 ^ q) (hq : 0 < q) {n : ℕ} (hn : n ≤ q) :
    10 ^ (n * p / q) ≤ 10 * 2 ^ n := by
  refine le_of_pow_le_pow_left₀ hq.ne' (Nat.zero_le _) ?_
  calc (10 ^ (n * p / q)) ^ q = 10 ^ (n * p / q * q) := (pow_mul ..).symm
    _ ≤ 10 ^ (p * n) := Nat.pow_le_pow_right (by decide) (mul_comm p n ▸ Nat.div_mul_le_self _ _)
    _ = (10 ^ p) ^ n := pow_mul ..
    _ ≤ (10 * 2 ^ q) ^ n := Nat.pow_le_pow_left hbase n
    _ = 10 ^ n * (2 ^ n) ^ q := by rw [mul_pow, pow_right_comm]
    _ ≤ 10 ^ q * (2 ^ n) ^ q := Nat.mul_le_mul_right _ (Nat.pow_le_pow_right (by decide) hn)
    _ = (10 * 2 ^ n) ^ q := (mul_pow ..).symm

end

/-- The digits of a natural number, as they are estimated from its bits, are at most one too many. -/
theorem ten_pow_digitBound_le {n : ℕ} (hn : 0 < n) (hlog : n.log2 ≤ 100000) :
    10 ^ digitBound n ≤ 100 * n := by
  have hbase : 10 ^ 30103 ≤ 10 * 2 ^ 100000 := by decide +kernel
  calc 10 ^ digitBound n = 10 * 10 ^ (n.log2 * 30103 / 100000) := Nat.pow_succ'
    _ ≤ 10 * (10 * 2 ^ n.log2) := Nat.mul_le_mul_left _ (ten_pow_le hbase (by decide) hlog)
    _ ≤ 10 * (10 * n) := by
      have := Nat.log2_self_le hn.ne'
      omega
    _ = 100 * n := by ring

/-- And they are enough but for a factor of two. -/
theorem lt_ten_pow_digitBound (n : ℕ) : n < 2 * 10 ^ digitBound n := by
  have hbase : 2 ^ 100000 ≤ 10 ^ 30103 := by decide +kernel
  calc n < 2 ^ (n.log2 + 1) := Nat.lt_log2_self
    _ = 2 * 2 ^ n.log2 := Nat.pow_succ'
    _ ≤ 2 * 10 ^ digitBound n := Nat.mul_le_mul_left _ (two_pow_lt hbase (by decide) _).le

theorem two_pow_mul_ten_pow_le (m n : ℕ) : 2 ^ m * 10 ^ n ≤ 2 ^ (m + 4 * n) := by
  rw [pow_add, pow_mul]
  exact Nat.mul_le_mul_left _ (Nat.pow_le_pow_left (by decide) n)

section

variable {x : Binary} (hx : x.Regular) (hpos : 0 < x.mantissa) (hmost : x.exponent ≤ 971)

include hx hpos in
/-- What a number holds is not below half of the least number. -/
theorem Binary.Holds.le {q : ℚ} (h : x.Holds q) : 2 ^ (-1075 : ℤ) ≤ q := by
  have hle : x.lower ≤ q / 2 ^ x.exponent := h.below.elim le_of_lt fun h => h.2.le
  have hmantissa : (1 : ℚ) ≤ x.mantissa := by exact_mod_cast hpos
  have hhalf := x.half_le_lower
  have hpower : (2 : ℚ) ^ (-1074 : ℤ) ≤ 2 ^ x.exponent :=
    zpow_le_zpow_right₀ (by norm_num) hx.canonical.least
  have hscaled : (1 / 2 : ℚ) * 2 ^ x.exponent ≤ q := by
    rw [← le_div_iff₀ (by positivity)]
    linarith
  calc (2 : ℚ) ^ (-1075 : ℤ) = 1 / 2 * 2 ^ (-1074 : ℤ) := by
        rw [show (-1075 : ℤ) = -1 + -1074 from rfl, zpow_add₀ (by norm_num), zpow_neg_one, one_div]
    _ ≤ 1 / 2 * 2 ^ x.exponent := by linarith
    _ ≤ q := hscaled

include hx hmost in
/-- What a number holds is below the infinite. -/
theorem Binary.Holds.lt {q : ℚ} (h : x.Holds q) : q < 2 ^ 1024 := by
  have hge : q / 2 ^ x.exponent ≤ x.mantissa + 1 / 2 := h.above.elim le_of_lt fun h => h.2.le
  have hmantissa : (x.mantissa : ℚ) + 1 ≤ 2 ^ 53 := by exact_mod_cast hx.canonical.lt
  rw [div_le_iff₀ (by positivity)] at hge
  calc q ≤ (x.mantissa + 1 / 2) * 2 ^ x.exponent := hge
    _ < 2 ^ 53 * 2 ^ x.exponent := mul_lt_mul_of_pos_right (by linarith) (by positivity)
    _ ≤ 2 ^ 53 * 2 ^ (971 : ℤ) :=
      mul_le_mul_of_nonneg_left (zpow_le_zpow_right₀ (by norm_num) hmost) (by positivity)
    _ = 2 ^ 1024 := by rw [zpow_ofNat, ← pow_add]

include hx hmost in
/-- A numeral that a number holds has no more digits than can be counted. -/
theorem Binary.Holds.log2_le {d : Scientific} (h : x.Holds d.value) (hexponent : -1074 ≤ d.exponent) :
    d.digits.log2 ≤ 100000 := by
  have hvalue : (d.digits : ℚ) < 2 ^ 1024 * 10 ^ 1074 := by
    have hpower : (10 : ℚ) ^ (-1074 : ℤ) ≤ 10 ^ d.exponent := zpow_le_zpow_right₀ (by norm_num) hexponent
    have hscaled : (d.digits : ℚ) * 10 ^ (-1074 : ℤ) < 2 ^ 1024 :=
      (mul_le_mul_of_nonneg_left hpower (by positivity)).trans_lt (h.lt hx hmost)
    rwa [zpow_neg, zpow_ofNat, ← div_eq_mul_inv, div_lt_iff₀ (by positivity)] at hscaled
  rcases Nat.eq_zero_or_pos d.digits with hzero | hdigits
  · rw [hzero]
    decide
  · have hlt : d.digits < 2 ^ (1024 + 4 * 1074) := by
      calc d.digits < 2 ^ 1024 * 10 ^ 1074 := by exact_mod_cast hvalue
        _ ≤ 2 ^ (1024 + 4 * 1074) := two_pow_mul_ten_pow_le 1024 1074
    have hlog := (Nat.log2_lt hdigits.ne').2 hlt
    omega

include hx hpos hmost in
/-- A numeral that a number holds is not taken for infinite. -/
theorem Binary.Holds.digitBound_le {d : Scientific} (h : x.Holds d.value) (hexponent : -1074 ≤ d.exponent) :
    (digitBound d.digits : ℤ) + d.exponent ≤ 312 := by
  by_contra hlarge
  have hpower : (0 : ℚ) < 10 ^ d.exponent := by positivity
  have hbound : (10 : ℚ) ^ digitBound d.digits ≤ 100 * d.digits := by
    exact_mod_cast ten_pow_digitBound_le (h.digits_pos hpos) (h.log2_le hx hmost hexponent)
  have hfar : (100 * 2 ^ 1024 : ℚ) ≤ 10 ^ (313 : ℤ) := by
    have : 100 * 2 ^ 1024 ≤ 10 ^ 313 := by decide +kernel
    exact_mod_cast this
  have hle : (10 : ℚ) ^ (313 : ℤ) ≤ 100 * d.value := by
    calc (10 : ℚ) ^ (313 : ℤ) ≤ 10 ^ ((digitBound d.digits : ℤ) + d.exponent) :=
          zpow_le_zpow_right₀ (by norm_num) (by omega)
      _ = 10 ^ digitBound d.digits * 10 ^ d.exponent := by
        rw [zpow_add₀ (by norm_num), zpow_natCast]
      _ ≤ 100 * d.digits * 10 ^ d.exponent := mul_le_mul_of_nonneg_right hbound hpower.le
      _ = 100 * d.value := mul_assoc ..
  have hlt : 100 * d.value < 100 * 2 ^ 1024 := mul_lt_mul_of_pos_left (h.lt hx hmost) (by norm_num)
  exact hlt.not_ge (hfar.trans hle)

include hx hpos in
/-- A numeral that a number holds is not taken for zero. -/
theorem Binary.Holds.le_digitBound {d : Scientific} (h : x.Holds d.value) :
    -330 ≤ (digitBound d.digits : ℤ) + d.exponent := by
  by_contra hsmall
  have hpower : (0 : ℚ) < 10 ^ d.exponent := by positivity
  have hbound : (d.digits : ℚ) < 2 * 10 ^ digitBound d.digits := by
    exact_mod_cast lt_ten_pow_digitBound d.digits
  have hnear : (2 * 10 ^ (-331 : ℤ) : ℚ) ≤ 2 ^ (-1075 : ℤ) := by
    have : 2 * 2 ^ 1075 ≤ 10 ^ 331 := by decide +kernel
    rw [zpow_neg, zpow_neg, ← div_eq_mul_inv, div_le_iff₀ (by positivity), ← div_eq_inv_mul,
      le_div_iff₀ (by positivity)]
    exact_mod_cast this
  have hlt : d.value < 2 * 10 ^ (-331 : ℤ) := by
    calc d.value = d.digits * 10 ^ d.exponent := rfl
      _ < 2 * 10 ^ digitBound d.digits * 10 ^ d.exponent := mul_lt_mul_of_pos_right hbound hpower
      _ = 2 * 10 ^ ((digitBound d.digits : ℤ) + d.exponent) := by
        rw [zpow_add₀ (by norm_num), zpow_natCast, mul_assoc]
      _ ≤ 2 * 10 ^ (-331 : ℤ) :=
        mul_le_mul_of_nonneg_left (zpow_le_zpow_right₀ (by norm_num) (by omega)) (by norm_num)
  exact (hlt.trans_le hnear).not_ge (h.le hx hpos)

include hx hmost in
/-- A decimal is converted to the floating number that holds it. -/
theorem Binary.Holds.toFloat_eq {d : Scientific} (h : x.Holds d.value) (hexponent : -1074 ≤ d.exponent) :
    d.toFloat = Float.ofModel (Float.Model.pack (.finite .positive x.mantissa x.exponent hpos)) := by
  have hdigits : 0 < d.digits := h.digits_pos hpos
  have hlarge := h.digitBound_le hx hpos hmost hexponent
  have hsmall := h.le_digitBound hx hpos
  have hleast : 1 ≤ digitBound d.digits := Nat.le_add_left ..
  unfold Scientific.toFloat
  rw [if_neg hdigits.ne', if_neg (Int.not_lt.2 hlarge), if_neg (Int.not_lt.2 hsmall)]
  rcases lt_or_ge d.exponent 0 with hneg | hnonneg
  · obtain ⟨k, hk⟩ : ∃ k : ℕ, d.exponent = -k := ⟨d.exponent.natAbs, by omega⟩
    have hvalue : d.value = d.digits / 10 ^ k := by
      unfold Scientific.value
      rw [hk, zpow_neg, zpow_natCast, div_eq_mul_inv]
    rw [hk, Int.natAbs_neg, Int.natAbs_natCast, decide_eq_true (by omega)]
    exact Binary.Holds.ofScientific_div hx hpos hdigits (by omega) (by omega) (hvalue ▸ h)
  · obtain ⟨k, hk⟩ := Int.eq_ofNat_of_zero_le hnonneg
    have hvalue : d.value = d.digits * 10 ^ k := by
      unfold Scientific.value
      rw [hk, zpow_natCast]
    rw [hk, Int.natAbs_natCast, decide_eq_false (by omega)]
    exact Binary.Holds.ofScientific_mul hx hpos hdigits (by omega) (hvalue ▸ h)

end

end StoryRules.Decimal
