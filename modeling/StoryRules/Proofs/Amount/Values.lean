import StoryRules.Proofs.Decimal.Shortest
import StoryRules.Proofs.Floating
import StoryRules.Proofs.Number

/-!
# What amounts stand for

An amount stands for a rational number or for an infinity, and for nothing if it is no number.  Amounts
compare as what they stand for, a whole with a floating number too: nothing is rounded for it.  What is no
number is neither less than, nor equal to, nor at most anything.

    a.compare? b = compareValues a.value? b.value?      (compare?_eq_values)
    Number.less a b = true ↔ a < b                      (less_iff)
    Number.atMost a b = true ↔ a ≤ b                    (atMost_iff)
-/

namespace StoryRules.Amount

open Float.Model UnpackedFloat

/-! ## Values -/

/-- The rational numbers with an infinity at each end. -/
abbrev Value : Type := WithBot (WithTop ℚ)

/-- What a floating number stands for.  Both zeros stand for zero. -/
def floatValue? : UnpackedFloat → Option Value
  | .notANumber => none
  | .infinity .positive => some ⊤
  | .infinity .negative => some ⊥
  | .zero _ => some ((0 : ℚ) : WithTop ℚ)
  | .finite s m e _ => some ((s.apply m * 2 ^ e : ℚ) : WithTop ℚ)

/-- What an amount stands for. -/
def value? : Amount → Option Value
  | .int n => some ((n : ℚ) : WithTop ℚ)
  | .float x => floatValue? x.toModel.unpack

/-- How two values compare, where both are there. -/
def compareValues : Option Value → Option Value → Option Ordering
  | some x, some y => some (cmp x y)
  | _, _ => none

theorem compareValues_swap (u v : Option Value) :
    (compareValues u v).map Ordering.swap = compareValues v u := by
  cases u with
  | none => cases v <;> rfl
  | some x =>
    cases v with
    | none => rfl
    | some y => exact congrArg some (cmp_swap x y)

theorem cmp_rat (p q : ℚ) : cmp ((p : WithTop ℚ) : Value) ((q : WithTop ℚ) : Value) = cmp p q :=
  (WithBot.coe_strictMono.cmp_map_eq (p : WithTop ℚ) q).trans (WithTop.coe_strictMono.cmp_map_eq p q)

theorem cmp_int (m n : ℤ) : cmp (m : ℚ) (n : ℚ) = compare m n :=
  (Int.cast_strictMono.cmp_map_eq m n).trans (cmp_eq_compare m n)

/-! ## Two floating numbers -/

/-- Of two mantissas as floating numbers have them the one with the larger exponent is the larger. -/
theorem canonical_lt {m m' : ℕ} {e e' : ℤ} (h : Canonical m e) (h' : Canonical m' e') (hlt : e < e') :
    (m : ℚ) * 2 ^ e < m' * 2 ^ e' := by
  have hnormal : 2 ^ 52 ≤ m' := by
    have := h.least
    rcases h'.normal with hleast | hnormal
    · omega
    · exact hnormal
  have hm : (m : ℚ) < 2 ^ 53 := by exact_mod_cast h.lt
  have hm' : (2 : ℚ) ^ 52 ≤ m' := by exact_mod_cast hnormal
  have hpow : (2 : ℚ) ^ (e + 1) ≤ 2 ^ e' := zpow_le_zpow_right₀ (by norm_num) (by omega)
  calc (m : ℚ) * 2 ^ e < 2 ^ 53 * 2 ^ e := by
        exact mul_lt_mul_of_pos_right hm (zpow_pos (by norm_num) e)
    _ = 2 ^ 52 * 2 ^ (e + 1) := by rw [zpow_add_one₀ (by norm_num)]; ring
    _ ≤ m' * 2 ^ e' := mul_le_mul hm' hpow (zpow_nonneg (by norm_num) _) (Nat.cast_nonneg _)

/-- Positive numbers are compared by exponent and then by mantissa. -/
theorem cmp_canonical {m m' : ℕ} {e e' : ℤ} (h : Canonical m e) (h' : Canonical m' e') :
    cmp ((m : ℚ) * 2 ^ e) (m' * 2 ^ e') = (compare e e').then (compare m m') := by
  rcases lt_trichotomy e e' with hlt | rfl | hgt
  · rw [(cmp_eq_lt_iff _ _).2 (canonical_lt h h' hlt), Int.compare_eq_lt.2 hlt]
    rfl
  · have hmono : StrictMono fun k : ℕ => (k : ℚ) * 2 ^ e := fun a b hab =>
      mul_lt_mul_of_pos_right (by exact_mod_cast hab) (zpow_pos (by norm_num) e)
    rw [Int.compare_eq_eq.2 rfl, hmono.cmp_map_eq, cmp_eq_compare]
    rfl
  · rw [(cmp_eq_gt_iff _ _).2 (canonical_lt h' h hgt), Int.compare_eq_gt.2 hgt]
    rfl

theorem cmp_neg_rat (p q : ℚ) : cmp (-p) (-q) = (cmp p q).swap := by
  rw [cmp_swap]
  refine Ordering.Compares.cmp_eq ?_
  have h := cmp_compares q p
  cases hcmp : cmp q p <;> rw [hcmp] at h
  · exact neg_lt_neg h
  · exact congrArg Neg.neg (Eq.symm h)
  · exact neg_lt_neg h

theorem compareValues_of {x y : Value} {o : Ordering} (h : o.Compares x y) :
    some o = compareValues (some x) (some y) := congrArg some h.cmp_eq.symm

theorem coe_lt_top (q : ℚ) : ((q : WithTop ℚ) : Value) < ⊤ := WithBot.coe_lt_coe.2 (WithTop.coe_lt_top q)

theorem bot_lt_coe (q : ℚ) : (⊥ : Value) < (q : WithTop ℚ) := WithBot.bot_lt_coe _

theorem coe_lt_coe {p q : ℚ} : ((p : WithTop ℚ) : Value) < (q : WithTop ℚ) ↔ p < q :=
  WithBot.coe_lt_coe.trans WithTop.coe_lt_coe

theorem magnitude_pos {m : ℕ} (hm : 0 < m) (e : ℤ) : (0 : ℚ) < m * 2 ^ e :=
  mul_pos (by exact_mod_cast hm) (zpow_pos (by norm_num) e)

theorem signed_value (s : Sign) (m : ℕ) (e : ℤ) : ((s.apply m : ℤ) : ℚ) * 2 ^ e =
    match s with
    | .positive => (m : ℚ) * 2 ^ e
    | .negative => -((m : ℚ) * 2 ^ e) := by
  cases s with
  | positive => rfl
  | negative =>
    show ((-(m : ℤ) : ℤ) : ℚ) * 2 ^ e = _
    push_cast
    ring

/-- Two numbers with a mantissa: of one sign the magnitudes are compared, else the signs. -/
theorem compare_finite_eq_values {s s' : Sign} {m m' : ℕ} {e e' : ℤ} {hm : 0 < m} {hm' : 0 < m'}
    (h : Canonical m e) (h' : Canonical m' e') :
    (finite s m e hm).compare (finite s' m' e' hm') =
      compareValues (floatValue? (finite s m e hm)) (floatValue? (finite s' m' e' hm')) := by
  have hpos := magnitude_pos hm e
  have hpos' := magnitude_pos hm' e'
  have hmagnitudes := cmp_canonical h h'
  unfold floatValue? compareValues
  dsimp only
  rw [cmp_rat, signed_value, signed_value]
  cases s <;> cases s' <;> dsimp only
  · rw [cmp_neg_rat, hmagnitudes]
    rfl
  · rw [(cmp_eq_lt_iff _ _).2 ((neg_lt_zero.2 hpos).trans hpos')]
    rfl
  · rw [(cmp_eq_gt_iff _ _).2 ((neg_lt_zero.2 hpos').trans hpos)]
    rfl
  · rw [hmagnitudes]
    rfl

/-- Rounded numbers compare as what they stand for. -/
theorem compare_eq_values {u v : UnpackedFloat} (hu : Rounded u) (hv : Rounded v) :
    u.compare v = compareValues (floatValue? u) (floatValue? v) := by
  have hlt : (⊥ : Value) < ⊤ := bot_lt_top
  cases u with
  | notANumber => cases v <;> rfl
  | infinity s =>
    cases v with
    | notANumber => cases s <;> rfl
    | infinity s' =>
      cases s <;> cases s'
      · exact compareValues_of (o := .eq) rfl
      · exact compareValues_of (o := .lt) hlt
      · exact compareValues_of (o := .gt) hlt
      · exact compareValues_of (o := .eq) rfl
    | zero s' =>
      cases s
      · exact compareValues_of (o := .lt) (bot_lt_coe _)
      · exact compareValues_of (o := .gt) (coe_lt_top _)
    | finite s' m' e' hm' =>
      cases s
      · exact compareValues_of (o := .lt) (bot_lt_coe _)
      · exact compareValues_of (o := .gt) (coe_lt_top _)
  | zero s =>
    cases v with
    | notANumber => rfl
    | infinity s' =>
      cases s'
      · exact compareValues_of (o := .gt) (bot_lt_coe _)
      · exact compareValues_of (o := .lt) (coe_lt_top _)
    | zero s' => exact compareValues_of (o := .eq) rfl
    | finite s' m' e' hm' =>
      have hpos := magnitude_pos hm' e'
      cases s' with
      | negative =>
        refine compareValues_of (o := .gt) (coe_lt_coe.2 ?_)
        rw [signed_value]
        exact neg_lt_zero.2 hpos
      | positive => exact compareValues_of (o := .lt) (coe_lt_coe.2 hpos)
  | finite s m e hm =>
    have hpos := magnitude_pos hm e
    cases v with
    | notANumber => cases s <;> rfl
    | infinity s' =>
      cases s' <;> cases s
      · exact compareValues_of (o := .gt) (bot_lt_coe _)
      · exact compareValues_of (o := .gt) (bot_lt_coe _)
      · exact compareValues_of (o := .lt) (coe_lt_top _)
      · exact compareValues_of (o := .lt) (coe_lt_top _)
    | zero s' =>
      cases s with
      | negative =>
        refine compareValues_of (o := .lt) (coe_lt_coe.2 ?_)
        rw [signed_value]
        exact neg_lt_zero.2 hpos
      | positive => exact compareValues_of (o := .gt) (coe_lt_coe.2 hpos)
    | finite s' m' e' hm' => exact compare_finite_eq_values hu hv

/-! ## Amounts -/

/-- A finite floating number stands for its significand at its exponent. -/
theorem dyadic_value {x : Float} (hnan : x.isNaN = false) (hinf : x.isInf = false) :
    (float x).value? = some (((dyadic x).1 * 2 ^ (dyadic x).2 : ℚ) : WithTop ℚ) := by
  show floatValue? x.toModel.unpack = _
  cases h : x.toModel.unpack with
  | notANumber =>
    have hnone : x.isNaN = x.toModel.unpack.isNaN := rfl
    rw [hnone, h] at hnan
    cases hnan
  | infinity s =>
    have hbeyond : x.isInf = x.toModel.unpack.isInf := rfl
    rw [hbeyond, h] at hinf
    cases hinf
  | zero s =>
    rw [dyadic_zero h, Int.cast_zero, zero_mul]
    rfl
  | finite s m e hm =>
    obtain ⟨hsign, hmagnitude, -⟩ := unpack_finite (b := x.toBits) h
    have hdyadic : dyadic x = (s.apply m, e) := by
      unfold magnitude at hmagnitude
      unfold dyadic
      dsimp only
      rw [hmagnitude, hsign]
      split <;> rfl
    rw [hdyadic]
    rfl

/-- A whole number and a significand compare when both are scaled by what the exponent has below zero. -/
theorem compare_scaled (n s e : ℤ) :
    compare (n * Decimal.twoPower (-e) : ℤ) (s * Decimal.twoPower e) = cmp (n : ℚ) (s * 2 ^ e) := by
  have hscale : (0 : ℚ) < 2 ^ (-e).toNat := pow_pos (by norm_num) _
  have hleft : ((n * Decimal.twoPower (-e) : ℤ) : ℚ) = n * 2 ^ (-e).toNat := by
    rw [Int.cast_mul, Int.cast_natCast, Decimal.cast_twoPower]
  have hright : ((s * Decimal.twoPower e : ℤ) : ℚ) = s * 2 ^ e * 2 ^ (-e).toNat := by
    rw [Int.cast_mul, Int.cast_natCast, Decimal.cast_twoPower, Decimal.pow_toNat (by norm_num), mul_assoc]
  rw [← cmp_int, hleft, hright, cmp_mul_pos_right hscale]

/-- A whole number compares with a floating number as with what it stands for. -/
theorem compareFloat?_eq_values (n : ℤ) (x : Float) :
    compareFloat? n x = compareValues (int n).value? (float x).value? := by
  have hnone : x.isNaN = x.toModel.unpack.isNaN := rfl
  have hbeyond : x.isInf = x.toModel.unpack.isInf := rfl
  unfold compareFloat?
  split
  · next hnan =>
    rw [hnone] at hnan
    show none = compareValues _ (floatValue? x.toModel.unpack)
    cases h : x.toModel.unpack with
    | notANumber => rfl
    | _ => rw [h] at hnan; cases hnan
  · next hnan =>
    split
    · next hinf =>
      rw [hbeyond] at hinf
      show _ = compareValues _ (floatValue? x.toModel.unpack)
      cases h : x.toModel.unpack with
      | infinity s =>
        have hpositive := infinity_gt_zero h
        cases s with
        | negative =>
          rw [if_neg (mt hpositive.1 nofun)]
          exact compareValues_of (o := .gt) (bot_lt_coe _)
        | positive =>
          rw [if_pos (hpositive.2 rfl)]
          exact compareValues_of (o := .lt) (coe_lt_top _)
      | _ => rw [h] at hinf; cases hinf
    · next hinf =>
      rw [dyadic_value (Bool.not_eq_true _ ▸ hnan) (Bool.not_eq_true _ ▸ hinf)]
      refine congrArg some (Eq.trans ?_ (cmp_rat _ _).symm)
      exact compare_scaled n (dyadic x).1 (dyadic x).2

/-- Amounts compare as what they stand for. -/
theorem compare?_eq_values (a b : Amount) : a.compare? b = compareValues a.value? b.value? := by
  cases a with
  | int m =>
    cases b with
    | int n =>
      show some (compare m n) = some (cmp _ _)
      rw [cmp_rat, cmp_int]
    | float y => exact compareFloat?_eq_values m y
  | float x =>
    cases b with
    | int n =>
      show (compareFloat? n x).map Ordering.swap = _
      rw [compareFloat?_eq_values, compareValues_swap]
    | float y =>
      show (if x < y then _ else _) = compareValues (floatValue? _) (floatValue? _)
      have hxy := compare_eq_values (rounded_unpack x) (rounded_unpack y)
      have hyx := compare_eq_values (rounded_unpack y) (rounded_unpack x)
      rw [← compareValues_swap, ← hxy] at hyx
      rw [← hxy]
      rcases h : x.toModel.unpack.compare y.toModel.unpack with _ | _ | _ | _ <;> rw [h] at hyx <;>
        simp [float_lt_iff, float_beq_iff, h, hyx]

theorem compareValues_eq_some {u v : Option Value} {o : Ordering} :
    compareValues u v = some o ↔ ∃ x y, u = some x ∧ v = some y ∧ cmp x y = o := by
  cases u <;> cases v <;> simp [compareValues]

/-- An amount is below another if what it stands for is. -/
instance : LT Amount := ⟨fun a b => ∃ x y, a.value? = some x ∧ b.value? = some y ∧ x < y⟩

instance : LE Amount := ⟨fun a b => ∃ x y, a.value? = some x ∧ b.value? = some y ∧ x ≤ y⟩

theorem less_iff (a b : Amount) : Number.less a b = true ↔ a < b := by
  show decide (a.compare? b = some .lt) = true ↔ ∃ x y, _
  rw [decide_eq_true_iff, compare?_eq_values, compareValues_eq_some]
  simp only [cmp_eq_lt_iff]

theorem same_iff (a b : Amount) :
    Number.same a b = true ↔ ∃ x, a.value? = some x ∧ b.value? = some x := by
  show decide (a.compare? b = some .eq) = true ↔ _
  rw [decide_eq_true_iff, compare?_eq_values, compareValues_eq_some]
  simp only [cmp_eq_eq_iff]
  constructor
  · rintro ⟨x, _, hx, hy, rfl⟩
    exact ⟨x, hx, hy⟩
  · rintro ⟨x, hx, hy⟩
    exact ⟨x, x, hx, hy, rfl⟩

theorem atMost_iff (a b : Amount) : Number.atMost a b = true ↔ a ≤ b := by
  unfold Number.atMost
  rw [Bool.or_eq_true, less_iff, same_iff]
  constructor
  · rintro (⟨x, y, hx, hy, h⟩ | ⟨x, hx, hy⟩)
    · exact ⟨x, y, hx, hy, le_of_lt h⟩
    · exact ⟨x, x, hx, hy, le_refl x⟩
  · rintro ⟨x, y, hx, hy, h⟩
    rcases lt_or_eq_of_le h with h | rfl
    · exact .inl ⟨x, y, hx, hy, h⟩
    · exact .inr ⟨x, hx, hy⟩

end StoryRules.Amount
