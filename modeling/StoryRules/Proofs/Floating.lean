import StoryRules.Proofs.Floating.Bits

/-!
# Signs of floating numbers

Which sign a sum of floating numbers has, infinities and the two zeros among them.  A positive mantissa
whose exponent is not below the least one rounds to a positive number, so a positive sum never becomes
zero (`round_canonical`).  The comparison with zero that reads the bits itself agrees
(`compareFloat?_zero`).

    Nonneg x → Nonneg y → (0 < x + y ↔ 0 < x ∨ 0 < y)      (signOf_float_add)
-/

namespace StoryRules.Amount

open Float.Model UnpackedFloat

/-! ## Signs -/

/-- How zero compares with a floating number; it does not compare with a number that is none. -/
def signOf : UnpackedFloat → Option Ordering
  | .notANumber => none
  | .zero _ => some .eq
  | .infinity .positive | .finite .positive .. => some .lt
  | .infinity .negative | .finite .negative .. => some .gt

/-- Floating numbers compare by what their bits stand for. -/
theorem float_lt_iff (x y : Float) :
    x < y ↔ x.toModel.unpack.compare y.toModel.unpack = some .lt := by
  show decide (x.toModel < y.toModel) = true ↔ _
  rw [decide_eq_true_iff]
  show (x.toModel.unpack.compare y.toModel.unpack == some .lt) = true ↔ _
  rw [beq_iff_eq]

theorem float_beq_iff (x y : Float) :
    (x == y) = true ↔ x.toModel.unpack.compare y.toModel.unpack = some .eq := by
  show (x.toModel.unpack.compare y.toModel.unpack == some .eq) = true ↔ _
  rw [beq_iff_eq]

/-- The significand has the sign of the number. -/
theorem dyadic_sign {x : Float} {s : Sign} {m : Nat} {e : Int} {hm : 0 < m}
    (h : x.toModel.unpack = .finite s m e hm) :
    compare 0 (dyadic x).1 = match s with
      | .positive => .lt
      | .negative => .gt := by
  obtain ⟨hsign, hmagnitude, -⟩ := unpack_finite (b := x.toBits) h
  unfold magnitude at hmagnitude
  unfold dyadic
  dsimp only
  rw [hmagnitude]
  dsimp only
  split at hsign
  · next hbit =>
    subst hsign
    rw [if_pos hbit, Int.compare_eq_gt]
    omega
  · next hbit =>
    subst hsign
    rw [if_neg hbit, Int.compare_eq_lt]
    omega

theorem dyadic_zero {x : Float} {s : Sign} (h : x.toModel.unpack = .zero s) : (dyadic x).1 = 0 := by
  have hmantissa := (unpack_zero (b := x.toBits) h).2
  unfold magnitude at hmantissa
  unfold dyadic
  dsimp only
  rw [hmantissa]
  split <;> rfl

/-- Only positive infinity is above zero. -/
theorem infinity_gt_zero {x : Float} {s : Sign} (h : x.toModel.unpack = .infinity s) :
    x > 0.0 ↔ s = .positive := by
  have hzero : (0.0 : Float).toModel.unpack = .zero .positive := rfl
  rw [gt_iff_lt, float_lt_iff, hzero, h]
  cases s with
  | negative => exact iff_of_false (by rintro ⟨⟩) (by rintro ⟨⟩)
  | positive => exact iff_of_true rfl rfl

/-- Zero compares exactly with every floating number. -/
theorem compareFloat?_zero (x : Float) : compareFloat? 0 x = signOf x.toModel.unpack := by
  have hnan : x.isNaN = x.toModel.unpack.isNaN := rfl
  have hinf : x.isInf = x.toModel.unpack.isInf := rfl
  have hpower : 0 < (Decimal.twoPower (dyadic x).2 : Int) :=
    Int.natCast_pos.2 (Nat.pow_pos (by decide))
  unfold compareFloat?
  rw [hnan, hinf]
  cases h : x.toModel.unpack with
  | notANumber => rfl
  | infinity s =>
    have hpositive := infinity_gt_zero h
    simp only [UnpackedFloat.isNaN, UnpackedFloat.isInf, Bool.false_eq_true, if_false, if_true]
    cases s with
    | negative =>
      rw [if_neg (mt hpositive.1 (by rintro ⟨⟩))]
      rfl
    | positive =>
      rw [if_pos (hpositive.2 rfl)]
      rfl
  | zero s =>
    simp only [UnpackedFloat.isNaN, UnpackedFloat.isInf, Bool.false_eq_true, if_false, dyadic_zero h,
      Int.zero_mul]
    rfl
  | finite s m e hm =>
    have hsign := dyadic_sign h
    simp only [UnpackedFloat.isNaN, UnpackedFloat.isInf, Bool.false_eq_true, if_false, Int.zero_mul]
    cases s with
    | negative =>
      rw [Int.compare_eq_gt.2 (Int.mul_neg_of_neg_of_pos (Int.compare_eq_gt.1 hsign) hpower)]
      rfl
    | positive =>
      rw [Int.compare_eq_lt.2 (Int.mul_pos (Int.compare_eq_lt.1 hsign) hpower)]
      rfl

/-! ## Rounding -/

theorem mantissa_shiftRight (em : ExtendedMantissa) (k : Nat) :
    (em >>> k).mantissa = em.mantissa / 2 ^ k := by
  induction k with
  | zero => exact (Nat.div_one _).symm
  | succ k ih =>
    show (em >>> k).mantissa / 2 = _
    rw [ih, Nat.div_div_eq_div_mul, Nat.pow_succ]

theorem mantissa_ofAccuracy (m : Nat) (a : Accuracy) :
    (ExtendedMantissa.ofMantissaAndAccuracy m a).mantissa = m := by
  rcases a with _ | _ | _ | _ <;> rfl

theorem mantissa_le_rounded (em : ExtendedMantissa) : em.mantissa ≤ em.roundedMantissa := by
  unfold ExtendedMantissa.roundedMantissa
  rcases em.accuracy with _ | _ | _ | _
  · exact Nat.le_refl _
  · exact Nat.le_refl _
  · exact Nat.le_add_right _ _
  · exact Nat.le_add_right _ _

/-- From the least exponent on, just the bits behind the leading 53 are shifted out. -/
theorem shiftToTargetExponent_eq {m : Nat} {e : Int} (he : -1074 ≤ e) (a : Accuracy) :
    (shiftToTargetExponent Format.binary64 m e a).1.mantissa = m / 2 ^ (m.log2 - 52) ∧
      (shiftToTargetExponent Format.binary64 m e a).2 = e + (m.log2 - 52 : Nat) := by
  have hshift : (Format.binary64.targetExponent (totalExponent m e) - e).toNat = m.log2 - 52 := by
    show (max ((m.log2 : Int) + 1 + e - 53) (-1074) - e).toNat = _
    omega
  unfold shiftToTargetExponent shiftToExponent
  dsimp only
  rw [hshift, mantissa_shiftRight, mantissa_ofAccuracy]
  exact ⟨rfl, rfl⟩

theorem leading_bits {m : Nat} (hm : 0 < m) :
    0 < m / 2 ^ (m.log2 - 52) ∧ m / 2 ^ (m.log2 - 52) < 2 ^ 53 ∧
      (52 ≤ m.log2 → 2 ^ 52 ≤ m / 2 ^ (m.log2 - 52)) := by
  have hle := Nat.log2_self_le (Nat.ne_of_gt hm)
  have hlt := @Nat.lt_log2_self m
  by_cases hlog : 52 ≤ m.log2
  · have hlow : 2 ^ m.log2 = 2 ^ 52 * 2 ^ (m.log2 - 52) := by
      rw [← Nat.pow_add]
      congr 1
      omega
    have hhigh : 2 ^ (m.log2 + 1) = 2 ^ 53 * 2 ^ (m.log2 - 52) := by
      rw [← Nat.pow_add]
      congr 1
      omega
    have hpower : 0 < 2 ^ (m.log2 - 52) := Nat.two_pow_pos _
    have hnormal : 2 ^ 52 ≤ m / 2 ^ (m.log2 - 52) := by
      rw [Nat.le_div_iff_mul_le hpower, ← hlow]
      exact hle
    refine ⟨by omega, ?_, fun _ => hnormal⟩
    rw [Nat.div_lt_iff_lt_mul hpower, ← hhigh]
    exact hlt
  · rw [Nat.sub_eq_zero_of_le (by omega), Nat.pow_zero, Nat.div_one]
    have hpower : 2 ^ (m.log2 + 1) ≤ 2 ^ 53 := Nat.pow_le_pow_right (by decide) (by omega)
    exact ⟨hm, by omega, fun h => absurd h hlog⟩

/-- A positive number with all leading bits that it can have is rounded to a positive number. -/
theorem roundWithAccuracy_canonical (s : Sign) {m : Nat} (hm : 0 < m) {e : Int} (he : -1074 ≤ e)
    (hstart : e = -1074 ∨ 52 ≤ m.log2) (a : Accuracy) :
    ∃ m' e' hm', roundWithAccuracy Format.binary64 s m e a = .finite s m' e' hm' ∧
      Canonical m' e' ∧ e ≤ e' := by
  obtain ⟨hfirst, hexponent⟩ := shiftToTargetExponent_eq (m := m) he a
  obtain ⟨hpos, hlt, hnormal⟩ := leading_bits hm
  unfold roundWithAccuracy
  generalize hshifted : shiftToTargetExponent Format.binary64 m e a = shifted at hfirst hexponent
  obtain ⟨em, e₁⟩ := shifted
  dsimp only at hfirst hexponent ⊢
  have hrounded := mantissa_le_rounded em
  generalize em.roundedMantissa = r at hrounded
  have hr : 0 < r := by omega
  obtain ⟨hsecond, hfinal⟩ := shiftToTargetExponent_eq (m := r) (e := e₁) (by omega) .exact
  obtain ⟨hpos', hlt', hnormal'⟩ := leading_bits hr
  rw [hsecond]
  refine ⟨_, _, hpos', dif_neg (Nat.ne_of_gt hpos'), ⟨hlt', ?_, ?_⟩, ?_⟩
  · rw [hfinal]
    omega
  · rw [hfinal]
    by_cases hlog : 52 ≤ r.log2
    · exact .inr (hnormal' hlog)
    · have hsmall : ¬2 ^ 52 ≤ r := by rwa [← Nat.le_log2 (Nat.ne_of_gt hr)]
      have hfew : ¬52 ≤ m.log2 := by
        intro h
        have := hnormal h
        omega
      omega
  · rw [hfinal]
    omega

/-- A positive number whose exponent is not below the least one is rounded to a positive number. -/
theorem round_canonical (s : Sign) {m : Nat} (hm : 0 < m) {e : Int} (he : -1074 ≤ e) :
    ∃ m' e' hm', round Format.binary64 s m e = .finite s m' e' hm' ∧ Canonical m' e' ∧ e - 52 ≤ e' := by
  have htarget : Format.binary64.targetExponent (totalExponent m e) =
      max ((m.log2 : Int) + 1 + e - 53) (-1074) := rfl
  have hle := Nat.log2_self_le (Nat.ne_of_gt hm)
  unfold UnpackedFloat.round decreaseExponent
  dsimp only
  rw [htarget, Nat.shiftLeft_eq]
  generalize hk : (e - max ((m.log2 : Int) + 1 + e - 53) (-1074)).toNat = k
  have hpos : 0 < m * 2 ^ k := Nat.mul_pos hm (Nat.two_pow_pos k)
  have hstart : e - k = -1074 ∨ 52 ≤ (m * 2 ^ k).log2 := by
    by_cases hlow : e - k = -1074
    · exact .inl hlow
    · right
      rw [Nat.le_log2 (Nat.ne_of_gt hpos)]
      calc 2 ^ 52 ≤ 2 ^ (m.log2 + k) := Nat.pow_le_pow_right (by decide) (by omega)
        _ = 2 ^ m.log2 * 2 ^ k := Nat.pow_add ..
        _ ≤ m * 2 ^ k := Nat.mul_le_mul_right _ hle
  obtain ⟨m', e', hm', hround, hcanonical, hexponent⟩ :=
    roundWithAccuracy_canonical s hpos (e := e - k) (by omega) hstart .exact
  exact ⟨m', e', hm', hround, hcanonical, by omega⟩

/-! ## Sums -/

/-- A number as it is after rounding. -/
def Rounded : UnpackedFloat → Prop
  | .finite _ m e _ => Canonical m e
  | _ => True

theorem rounded_unpack (x : Float) : Rounded x.toModel.unpack := by
  cases h : x.toModel.unpack with
  | finite s m e hm => exact (unpack_finite (b := x.toBits) h).2.2.1
  | _ => trivial

/-- Packing keeps the sign of a rounded number. -/
theorem signOf_unpack_pack {u : UnpackedFloat} (h : Rounded u) :
    signOf (Float.Model.pack u).unpack = signOf u := by
  show signOf (UnpackedFloat.unpack Format.binary64 (UnpackedFloat.pack Format.binary64 u)) = _
  cases u with
  | notANumber => rfl
  | infinity s => cases s <;> rfl
  | zero s => cases s <;> rfl
  | finite s m e hm =>
    rw [unpack_pack_finite s hm h]
    split
    · rfl
    · cases s <;> rfl

/-- Numbers that are not below zero. -/
inductive Nonneg : UnpackedFloat → Prop
  | zero {s : Sign} : Nonneg (.zero s)
  | infinity : Nonneg (.infinity .positive)
  | finite {m : Nat} {e : Int} {hm : 0 < m} : Nonneg (.finite .positive m e hm)

theorem nonneg_iff {u : UnpackedFloat} :
    Nonneg u ↔ signOf u ≠ none ∧ signOf u ≠ some .gt := by
  constructor
  · rintro (_ | _ | _) <;> exact ⟨nofun, nofun⟩
  · rintro ⟨hnumber, hsign⟩
    rcases u with ⟨_ | _⟩ | _ | _ | ⟨_ | _⟩
    · exact absurd rfl hsign
    · exact .infinity
    · exact absurd rfl hnumber
    · exact .zero
    · exact absurd rfl hsign
    · exact .finite

/-- The sum of two numbers that are not below zero is not, and above zero just if one of them is. -/
theorem signOf_add {u v : UnpackedFloat} (hu : Rounded u) (hv : Rounded v) (hu' : Nonneg u)
    (hv' : Nonneg v) :
    Rounded (UnpackedFloat.add Format.binary64 u v) ∧
      signOf (UnpackedFloat.add Format.binary64 u v) =
        if signOf u = some .lt then some .lt else signOf v := by
  cases hu' with
  | infinity => cases hv' <;> exact ⟨trivial, rfl⟩
  | @zero s =>
    cases hv' with
    | @zero s' => cases s <;> cases s' <;> exact ⟨trivial, rfl⟩
    | infinity => exact ⟨trivial, rfl⟩
    | finite => exact ⟨hv, rfl⟩
  | @finite m e hm =>
    cases hv' with
    | zero => exact ⟨hu, rfl⟩
    | infinity => exact ⟨trivial, rfl⟩
    | @finite m' e' hm' =>
      unfold UnpackedFloat.add decreaseExponent
      dsimp only [Sign.apply]
      rw [Nat.shiftLeft_eq, Nat.shiftLeft_eq]
      have hsum : 0 < m * 2 ^ (e - min e e').toNat + m' * 2 ^ (e' - min e e').toNat :=
        Nat.add_pos_left (Nat.mul_pos hm (Nat.two_pow_pos _)) _
      obtain ⟨mantissa, exponent, hpos, hround, hcanonical, -⟩ :=
        round_canonical .positive hsum (e := min e e') (by have := hu.least; have := hv.least; omega)
      unfold UnpackedFloat.normalize
      rw [Int.compare_eq_gt.2 (by exact_mod_cast hsum)]
      dsimp only
      rw [← Int.natCast_add, Int.toNat_natCast, hround]
      exact ⟨hcanonical, rfl⟩

theorem signOf_float_add {x y : Float} (hx : Nonneg x.toModel.unpack) (hy : Nonneg y.toModel.unpack) :
    signOf (x + y).toModel.unpack =
      if signOf x.toModel.unpack = some .lt then some .lt else signOf y.toModel.unpack := by
  obtain ⟨hrounded, hsign⟩ := signOf_add (rounded_unpack x) (rounded_unpack y) hx hy
  rw [← hsign]
  exact signOf_unpack_pack hrounded

/-! ## Whole numbers -/

/-- A product of positive numbers with enough bits is positive. -/
theorem signOf_mul_finite {m m' : Nat} {e e' : Int} {hm : 0 < m} {hm' : 0 < m'}
    (hlow : -1074 ≤ e + e') (hlog : 2 ^ 52 ≤ m * m') :
    Rounded (UnpackedFloat.mul Format.binary64 (.finite .positive m e hm)
        (.finite .positive m' e' hm')) ∧
      signOf (UnpackedFloat.mul Format.binary64 (.finite .positive m e hm)
        (.finite .positive m' e' hm')) = some .lt := by
  have hpos : 0 < m * m' := Nat.mul_pos hm hm'
  obtain ⟨mantissa, exponent, _, hround, hcanonical, -⟩ := roundWithAccuracy_canonical .positive hpos
    hlow (.inr ((Nat.le_log2 (Nat.ne_of_gt hpos)).2 hlog)) .exact
  have hmul : UnpackedFloat.mul Format.binary64 (.finite .positive m e hm)
      (.finite .positive m' e' hm') = .finite .positive mantissa exponent _ := hround
  rw [hmul]
  exact ⟨hcanonical, rfl⟩

theorem unpack_one : (Float.ofBits 0x3FF0000000000000).toModel.unpack =
    .finite .positive (2 ^ 52) (-52) (Nat.two_pow_pos 52) := rfl

/-- A small positive count is converted to a positive number. -/
theorem signOf_toFloat_mul_one {n : Nat} (hn : 0 < n) (hlt : n < 2 ^ 53) :
    signOf (n.toUInt64.toFloat * Float.ofBits 0x3FF0000000000000).toModel.unpack = some .lt := by
  have hcount : n.toUInt64.toNat = n := by
    refine UInt64.toNat_ofNat_of_lt' ?_
    show n < 2 ^ 64
    omega
  obtain ⟨m, e, hm, hround, hcanonical, hexponent⟩ :=
    round_canonical .positive hn (e := 0) (by decide)
  have hnormalize : UnpackedFloat.ofNat Format.binary64 n = .finite .positive m e hm := by
    unfold UnpackedFloat.ofNat UnpackedFloat.ofInt UnpackedFloat.normalize
    rw [Int.compare_eq_gt.2 (by exact_mod_cast hn)]
    exact hround
  have hfloat : n.toUInt64.toFloat.toModel.unpack = UnpackedFloat.unpack Format.binary64
      (UnpackedFloat.pack Format.binary64 (.finite .positive m e hm)) := by
    rw [← hnormalize]
    show UnpackedFloat.unpack Format.binary64
      (UnpackedFloat.pack Format.binary64 (UnpackedFloat.ofNat Format.binary64 n.toUInt64.toNat)) = _
    rw [hcount]
  have hproduct : Rounded (UnpackedFloat.mul Format.binary64 n.toUInt64.toFloat.toModel.unpack
        (Float.ofBits 0x3FF0000000000000).toModel.unpack) ∧
      signOf (UnpackedFloat.mul Format.binary64 n.toUInt64.toFloat.toModel.unpack
        (Float.ofBits 0x3FF0000000000000).toModel.unpack) = some .lt := by
    rw [hfloat, unpack_one]
    rw [unpack_pack_finite .positive hm hcanonical]
    split
    · exact signOf_mul_finite (by omega) (by omega)
    · exact ⟨trivial, rfl⟩
  exact (signOf_unpack_pack hproduct.1).trans hproduct.2

/-- A large count is converted to a positive number. -/
theorem signOf_ofScientific {n : Nat} (hn : 2 ^ 53 ≤ n) :
    signOf (Float.Model.ofScientific n (Int.ofNat 0)).unpack = some .lt := by
  have hrounded : Rounded (UnpackedFloat.ofScientific Format.binary64 n (Int.ofNat 0)) ∧
      signOf (UnpackedFloat.ofScientific Format.binary64 n (Int.ofNat 0)) = some .lt := by
    have hlarge : ¬ Int.ofNat 0 < -(2 ^ Format.binary64.exponentBits + (n.log2 : Int)) := by
      show ¬ (0 : Int) < -(2048 + (n.log2 : Int))
      omega
    unfold UnpackedFloat.ofScientific
    rw [dif_neg (by omega), if_neg (by decide), if_neg hlarge, if_pos (by decide)]
    refine signOf_mul_finite (by decide) ?_
    rw [Nat.shiftLeft_eq]
    show 2 ^ 52 ≤ n * 2 ^ 53 * 1
    omega
  exact (signOf_unpack_pack hrounded.1).trans hrounded.2

/-- A whole number that is not below zero is converted to a number with its sign. -/
theorem signOf_ofInt {n : Int} (hn : 0 ≤ n) :
    signOf (Float.ofInt n).toModel.unpack = some (compare 0 n) := by
  obtain ⟨k, rfl⟩ := Int.eq_ofNat_of_zero_le hn
  show signOf (Float.ofScientific k false 0).toModel.unpack = _
  unfold Float.ofScientific
  by_cases hzero : k = 0
  · subst hzero
    rfl
  · rw [Int.compare_eq_lt.2 (by omega)]
    by_cases hlt : k < 2 ^ 53
    · rw [dif_pos ⟨hlt, Nat.zero_le 22⟩]
      exact signOf_toFloat_mul_one (by omega) hlt
    · rw [dif_neg fun h => hlt h.1]
      exact signOf_ofScientific (by omega)

end StoryRules.Amount
