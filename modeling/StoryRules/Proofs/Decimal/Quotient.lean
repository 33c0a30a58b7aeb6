import StoryRules.Proofs.Amount.Values
import StoryRules.Proofs.Decimal.Whole

/-!
# Quotients of counts

Rounding keeps the order: the reals that round to one floating number lie all below those that round to a larger
one.  So of two counts divided by the same count, the larger never gives the smaller quotient, whatever is rounded
on the way.

    m ≤ n → n ≤ total → Number.less (Number.ratio n total) (Number.ratio m total) = false      (ratio_not_less)
-/

namespace StoryRules.Decimal

open Float.Model UnpackedFloat Amount

/-! ## Rounding in order -/

namespace Binary

variable {x y : Binary} {p q : ℚ}

/-- The reals that round to a number lie side by side. -/
theorem Holds.between (hp : x.Holds p) (hq : x.Holds q) {r : ℚ} (hpr : p ≤ r) (hrq : r ≤ q) : x.Holds r := by
  have hpower : (0 : ℚ) < 2 ^ x.exponent := by positivity
  have hlow : p / 2 ^ x.exponent ≤ r / 2 ^ x.exponent := div_le_div_of_nonneg_right hpr hpower.le
  have hhigh : r / 2 ^ x.exponent ≤ q / 2 ^ x.exponent := div_le_div_of_nonneg_right hrq hpower.le
  constructor
  · rcases hp.below with h | ⟨heven, h⟩
    · exact .inl (h.trans_le hlow)
    · rcases hlow.lt_or_eq with hlt | heq
      · exact .inl (h ▸ hlt)
      · exact .inr ⟨heven, h.trans heq⟩
  · rcases hq.above with h | ⟨heven, h⟩
    · exact .inl (hhigh.trans_lt h)
    · rcases hhigh.lt_or_eq with hlt | heq
      · exact .inl (h ▸ hlt)
      · exact .inr ⟨heven, heq.trans h⟩

/-- A real rounds to one number only. -/
theorem Holds.unique (hx : x.Regular) (hy : y.Regular) (hxpos : 0 < x.mantissa) (hypos : 0 < y.mantissa)
    (h : x.Holds q) (h' : y.Holds q) : x.value = y.value := by
  have hq : 0 < q := lt_of_lt_of_le (by positivity) (h.le hx hxpos)
  have hnum := Rat.num_pos.2 hq
  have hpos : 0 < q.num.natAbs := Int.natAbs_pos.2 hnum.ne'
  have hfraction : q = q.num.natAbs * 2 ^ (0 : ℤ) / (q.den * 2 ^ (0 : ℤ)) := by
    have habs : ((q.num.natAbs : ℕ) : ℚ) = q.num := by 
      rw [← Int.cast_natCast, Int.natAbs_of_nonneg hnum.le]
    rw [zpow_zero, mul_one, mul_one, habs, Rat.num_div_den]
  rw [hfraction] at h h'
  -- both are what dividing the two parts of the fraction gives
  have heq := (@Binary.Holds.div_eq x hx hxpos _ _ _ _ hpos q.den_pos h (by decide)).symm.trans
    (h'.div_eq hy hypos (by decide))
  simp only [finite.injEq, true_and] at heq
  unfold value
  rw [heq.1, heq.2]

/-- Of two reals the larger never rounds to the smaller number. -/
theorem Holds.value_le (hx : x.Regular) (hy : y.Regular) (hxpos : 0 < x.mantissa) (hypos : 0 < y.mantissa)
    (hp : x.Holds p) (hq : y.Holds q) (hle : p ≤ q) : x.value ≤ y.value := by
  by_contra hlt
  rw [not_le] at hlt
  -- some real is held by both: the value of the smaller number, or else the smaller real
  rcases le_total p y.value with h | h
  · have hboth := hp.between (x.holds_value hxpos) h hlt.le
    exact hlt.ne (hboth.unique hx hy hxpos hypos (y.holds_value hypos)).symm
  · have hboth := (y.holds_value hypos).between hq h hle
    exact hlt.ne (hp.unique hx hy hxpos hypos hboth).symm

/-- What holds a count from one on is not below one. -/
theorem Holds.one_le (hx : x.Regular) (hpos : 0 < x.mantissa) {n : ℕ} (hn : 0 < n) (h : x.Holds n) : 1 ≤ x.value := by
  have hone : (ofCanonical (2 ^ 52) (-52)).value = 1 := by
    unfold value ofCanonical
    norm_num
  have hregular : (ofCanonical (2 ^ 52) (-52)).Regular :=
    regular_ofCanonical ⟨by decide, by decide, .inr (Nat.le_refl _)⟩
  have hholds := (ofCanonical (2 ^ 52) (-52)).holds_value (Nat.two_pow_pos 52)
  have hle := hholds.value_le hregular hx (Nat.two_pow_pos 52) hpos h (by rw [hone]; exact_mod_cast hn)
  rwa [hone] at hle

theorem value_lt (hx : x.Regular) (hmost : x.exponent ≤ 971) : x.value < 2 ^ 1024 := by
  have hmantissa : (x.mantissa : ℚ) < 2 ^ 53 := by exact_mod_cast hx.canonical.lt
  calc x.value < 2 ^ 53 * 2 ^ x.exponent := mul_lt_mul_of_pos_right hmantissa (by positivity)
    _ ≤ 2 ^ 53 * 2 ^ (971 : ℤ) :=
      mul_le_mul_of_nonneg_left (zpow_le_zpow_right₀ (by norm_num) hmost) (by positivity)
    _ = 2 ^ 1024 := by rw [zpow_ofNat, ← pow_add]

theorem exponent_ge (hx : x.Regular) (hone : 1 ≤ x.value) : -52 ≤ x.exponent := by
  by_contra hlt
  have hmantissa : (x.mantissa : ℚ) < 2 ^ 53 := by exact_mod_cast hx.canonical.lt
  have hsmall : x.value < 1 := by
    calc x.value < 2 ^ 53 * 2 ^ x.exponent := mul_lt_mul_of_pos_right hmantissa (by positivity)
      _ ≤ 2 ^ 53 * 2 ^ (-53 : ℤ) :=
        mul_le_mul_of_nonneg_left (zpow_le_zpow_right₀ (by norm_num) (by omega)) (by positivity)
      _ = 1 := by norm_num
  exact absurd hone (not_le.2 hsmall)

end Binary

end StoryRules.Decimal

namespace StoryRules.Amount

open Float.Model UnpackedFloat Decimal

/-! ## Quotients of counts -/

theorem unpack_div (a b : Float) : (a / b).toModel.unpack = UnpackedFloat.unpack Format.binary64
    (UnpackedFloat.pack Format.binary64
      (UnpackedFloat.div Format.binary64 a.toModel.unpack b.toModel.unpack)) := rfl

/-- A quotient that is not above one stands for the number that holds what is divided. -/
theorem ratio_value {m total : ℕ} (hm : 0 < m) (hle : m ≤ total) (htotal : total < wholeBound) :
    ∃ x z y : Binary, (x.Regular ∧ 0 < x.mantissa ∧ x.Holds m) ∧ (z.Regular ∧ 0 < z.mantissa ∧ z.Holds total) ∧
      (y.Regular ∧ 0 < y.mantissa ∧ y.Holds (x.value / z.value)) ∧
      (Number.ratio m total : Amount).value? = some (((y.value : ℚ) : WithTop ℚ) : Value) := by
  obtain ⟨x, hxpos, hx, hxm, hunpack⟩ := unpack_ofNat hm
  obtain ⟨z, hzpos, hz, hzt, hunpack'⟩ := unpack_ofNat (hm.trans_le hle)
  rw [if_pos (hle.trans_lt htotal)] at hunpack
  rw [if_pos htotal] at hunpack'
  have hxone := hxm.one_le hx hxpos hm
  have hzone := hzt.one_le hz hzpos (hm.trans_le hle)
  have hzmost : z.exponent ≤ 971 := (hzt.exponent_le_iff hz).2 (by exact_mod_cast htotal)
  have hzlt := Binary.value_lt hz hzmost
  have hxz : x.value ≤ z.value := hxm.value_le hx hz hxpos hzpos hzt (by exact_mod_cast hle)
  have hzvalue : 0 < z.value := by linarith
  have hquotient : x.value / z.value ≤ 1 := (div_le_one hzvalue).2 hxz
  obtain ⟨y, hy, hypos, hyq⟩ : ∃ y : Binary, y.Regular ∧ 0 < y.mantissa ∧ y.Holds (x.value / z.value) := by
    refine exists_holds ?_
    rw [le_div_iff₀ hzvalue]
    calc (2 : ℚ) ^ (-1074 : ℤ) * z.value ≤ 2 ^ (-1074 : ℤ) * 2 ^ 1024 := by
          exact mul_le_mul_of_nonneg_left hzlt.le (by positivity)
      _ = 2 ^ (-50 : ℤ) := by rw [← zpow_natCast, ← zpow_add₀ (by norm_num)]; norm_num
      _ ≤ 1 := zpow_le_one_of_nonpos₀ (by norm_num) (by norm_num)
      _ ≤ x.value := hxone
  have hymost : y.exponent ≤ 971 := by
    refine (hyq.exponent_le_iff hy).2 (hquotient.trans_lt ?_)
    have hone : 1 < wholeBound := Nat.lt_of_le_of_lt (hm.trans_le hle) htotal
    exact_mod_cast hone
  refine ⟨x, z, y, ⟨hx, hxpos, hxm⟩, ⟨hz, hzpos, hzt⟩, ⟨hy, hypos, hyq⟩, ?_⟩
  show floatValue? (Float.ofNat m / Float.ofNat total).toModel.unpack = _
  have hexponent := Binary.exponent_ge hx hxone
  rw [unpack_div, hunpack, hunpack', hyq.div_eq hy hypos (by omega),
    unpack_pack_finite .positive hypos hy.canonical, if_pos hymost]
  rfl

theorem unpack_pack_zero (s : Sign) : UnpackedFloat.unpack Format.binary64
    (UnpackedFloat.pack Format.binary64 (.zero s)) = .zero s := by
  cases s <;> rfl

/-- A count divided by one that is too large for a floating number is zero, or no number. -/
theorem ratio_value_of_huge {m total : ℕ} (htotal : wholeBound ≤ total) {v : Value}
    (hv : (Number.ratio m total : Amount).value? = some v) : v = ((0 : ℚ) : WithTop ℚ) := by
  obtain ⟨z, hzpos, -, -, hunpack⟩ := unpack_ofNat (wholeBound_pos.trans_le htotal)
  rw [if_neg (Nat.not_lt.2 htotal)] at hunpack
  change floatValue? (Float.ofNat m / Float.ofNat total).toModel.unpack = some v at hv
  rw [unpack_div, hunpack] at hv
  cases hcount : (Float.ofNat m).toModel.unpack with
  | notANumber | infinity s =>
    have hdiv : UnpackedFloat.div Format.binary64 (Float.ofNat m).toModel.unpack (.infinity .positive) =
        .notANumber := by
      rw [hcount]
      rfl
    have hnone : UnpackedFloat.unpack Format.binary64 (UnpackedFloat.pack Format.binary64 .notANumber) =
        .notANumber := rfl
    rw [hdiv, hnone] at hv
    cases hv
  | zero s | finite s k e hk =>
    have hdiv : UnpackedFloat.div Format.binary64 (Float.ofNat m).toModel.unpack (.infinity .positive) =
        .zero (s / .positive) := by
      rw [hcount]
      rfl
    rw [hdiv, unpack_pack_zero] at hv
    exact (Option.some.inj hv).symm

/-- Nothing of a total is zero. -/
theorem ratio_value_zero {total : ℕ} (hpos : 0 < total) :
    (Number.ratio 0 total : Amount).value? = some (((0 : ℚ) : WithTop ℚ) : Value) := by
  obtain ⟨z, hzpos, -, -, hunpack⟩ := unpack_ofNat hpos
  have hzero : (Float.ofNat 0).toModel.unpack = .zero .positive := rfl
  have hdiv : UnpackedFloat.div Format.binary64 (Float.ofNat 0).toModel.unpack (Float.ofNat total).toModel.unpack =
      .zero .positive := by
    rw [hzero, hunpack]
    split <;> rfl
  show floatValue? (Float.ofNat 0 / Float.ofNat total).toModel.unpack = _
  rw [unpack_div, hdiv, unpack_pack_zero]
  rfl

/-- Of two counts out of one total the larger is never the smaller part. -/
theorem ratio_not_less {m n total : ℕ} (hmn : m ≤ n) (hn : n ≤ total) (hpos : 0 < total) :
    Number.less (Number.ratio n total : Amount) (Number.ratio m total) = false := by
  rw [Bool.eq_false_iff, ne_eq, less_iff]
  rintro ⟨v, w, hv, hw, hlt⟩
  refine absurd hlt (not_lt.2 ?_)
  by_cases htotal : wholeBound ≤ total
  · rw [ratio_value_of_huge htotal hv, ratio_value_of_huge htotal hw]
  · rw [not_le] at htotal
    rcases Nat.eq_zero_or_pos m with rfl | hm
    · rw [ratio_value_zero hpos] at hw
      rcases Nat.eq_zero_or_pos n with rfl | hn'
      · rw [ratio_value_zero hpos] at hv
        exact (Option.some.inj (hw.symm.trans hv)).le
      · obtain ⟨-, -, y, -, -, ⟨-, hypos, -⟩, hvalue⟩ := ratio_value hn' hn htotal
        obtain rfl := Option.some.inj (hv.symm.trans hvalue)
        obtain rfl := Option.some.inj hw
        exact (coe_lt_coe.2 (magnitude_pos hypos y.exponent)).le
    · obtain ⟨x, z, y, ⟨hx, hxpos, hxm⟩, ⟨hz, hzpos, hzt⟩, ⟨hy, hypos, hyq⟩, hvalue⟩ :=
        ratio_value hm (hmn.trans hn) htotal
      obtain ⟨x', z', y', ⟨hx', hxpos', hxn⟩, ⟨hz', hzpos', hzt'⟩, ⟨hy', hypos', hyq'⟩, hvalue'⟩ :=
        ratio_value (hm.trans_le hmn) hn htotal
      obtain rfl := Option.some.inj (hw.symm.trans hvalue)
      obtain rfl := Option.some.inj (hv.symm.trans hvalue')
      have hsame := hzt.unique hz hz' hzpos hzpos' hzt'
      have hone := hzt.one_le hz hzpos hpos
      have hle : x.value ≤ x'.value := hxm.value_le hx hx' hxpos hxpos' hxn (by exact_mod_cast hmn)
      rw [← hsame] at hyq'
      have hquotient : x.value / z.value ≤ x'.value / z.value := div_le_div_of_nonneg_right hle (by linarith)
      exact WithBot.coe_le_coe.2 (WithTop.coe_le_coe.2 (hyq.value_le hy hy' hypos hypos' hyq' hquotient))

end StoryRules.Amount
