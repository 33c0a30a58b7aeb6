import Mathlib
import StoryRules.Proofs.Floating

/-!
# Correct rounding

A floating number stands for all the reals that round to it: those up to half a unit of its mantissa away,
and only a quarter below the least mantissa, where the numbers are twice as dense.  Rounding a located real
gives the number that holds it.

    x.Holds q → the mantissa located at q is rounded to x      (roundWithAccuracy_eq)
-/

namespace StoryRules.Decimal

open Float.Model UnpackedFloat Amount

/-! ## Residual bits -/

/-- Where a value lies, as a mantissa with its round bit and its sticky bit says it. -/
def Locates (em : ExtendedMantissa) (t : ℚ) : Prop :=
  match em.roundBit, em.stickyBit with
  | false, false => t = em.mantissa
  | false, true => em.mantissa < t ∧ t < em.mantissa + 1 / 2
  | true, false => t = em.mantissa + 1 / 2
  | true, true => em.mantissa + 1 / 2 < t ∧ t < em.mantissa + 1

theorem Locates.bounds {em : ExtendedMantissa} {t : ℚ} (h : Locates em t) :
    em.mantissa ≤ t ∧ t < em.mantissa + 1 := by
  unfold Locates at h
  split at h
  · constructor <;> linarith
  · constructor <;> linarith
  · constructor <;> linarith
  · constructor <;> linarith

/-- Shifting a bit out halves the value; the bit that leaves the mantissa becomes the round bit. -/
theorem Locates.shiftRightOne {em : ExtendedMantissa} {t : ℚ} (h : Locates em t) :
    Locates em.shiftRightOne (t / 2) := by
  obtain ⟨m, roundBit, stickyBit⟩ := em
  have hhalf : (m : ℚ) = 2 * (m / 2 : ℕ) + (m % 2 : ℕ) := by exact_mod_cast (Nat.div_add_mod m 2).symm
  unfold ExtendedMantissa.shiftRightOne
  rcases Nat.mod_two_eq_zero_or_one m with hbit | hbit
  · rw [hbit, Nat.cast_zero, add_zero] at hhalf
    cases roundBit <;> cases stickyBit <;> simp only [Locates, hbit] at h ⊢ <;>
      simp <;> (first | constructor | skip) <;> linarith
  · rw [hbit, Nat.cast_one] at hhalf
    cases roundBit <;> cases stickyBit <;> simp only [Locates, hbit] at h ⊢ <;>
      simp <;> (first | constructor | skip) <;> linarith

theorem Locates.shiftRight {em : ExtendedMantissa} {t : ℚ} (h : Locates em t) (k : ℕ) :
    Locates (em >>> k) (t / 2 ^ k) := by
  induction k with
  | zero => rwa [pow_zero, div_one]
  | succ k ih =>
    have hstep := ih.shiftRightOne
    rwa [div_div, ← pow_succ] at hstep

/-! ## The nearest number -/

/-- `r` is the natural number nearest to `t`, and the even one of two that are equally near. -/
structure Nearest (r : ℕ) (t : ℚ) : Prop where
  below : r - 1 / 2 < t ∨ Even r ∧ r - 1 / 2 = t
  above : t < r + 1 / 2 ∨ Even r ∧ t = r + 1 / 2

theorem Nearest.le {r r' : ℕ} {t : ℚ} (h : Nearest r t) (h' : Nearest r' t) : r ≤ r' := by
  by_contra hlt
  have hstep : (r' : ℚ) + 1 ≤ r := by exact_mod_cast Nat.lt_of_not_le hlt
  -- both are half a unit away, so both are even and yet neighbours
  rcases h.below with hbelow | ⟨heven, hbelow⟩
  · rcases h'.above with habove | ⟨-, habove⟩ <;> linarith
  · rcases h'.above with habove | ⟨heven', habove⟩
    · linarith
    · have hnext : r = r' + 1 := by
        have : (r : ℚ) = r' + 1 := by linarith
        exact_mod_cast this
      rw [hnext, Nat.even_add_one] at heven
      exact heven heven'

theorem Nearest.unique {r r' : ℕ} {t : ℚ} (h : Nearest r t) (h' : Nearest r' t) : r = r' :=
  Nat.le_antisymm (h.le h') (h'.le h)

/-- A located mantissa is rounded to the nearest number. -/
theorem Locates.nearest {em : ExtendedMantissa} {t : ℚ} (h : Locates em t) :
    Nearest em.roundedMantissa t := by
  obtain ⟨m, roundBit, stickyBit⟩ := em
  cases roundBit <;> cases stickyBit <;> simp only [Locates] at h
  · subst h
    exact ⟨.inl (by show (m : ℚ) - _ < _; linarith), .inl (by show (m : ℚ) < m + _; linarith)⟩
  · exact ⟨.inl (by show (m : ℚ) - _ < _; linarith), .inl h.2⟩
  · show Nearest (m + m % 2) t
    rcases Nat.mod_two_eq_zero_or_one m with hbit | hbit
    · rw [hbit]
      exact ⟨.inl (by push_cast; linarith), .inr ⟨Nat.even_iff.2 hbit, by push_cast; linarith⟩⟩
    · rw [hbit]
      refine ⟨.inr ⟨Nat.even_iff.2 (by omega), by push_cast; linarith⟩, .inl (by push_cast; linarith)⟩
  · show Nearest (m + 1) t
    exact ⟨.inl (by push_cast; linarith), .inl (by push_cast; linarith)⟩

/-! ## The reals of a floating number -/

/-- The value of a finite floating number. -/
def Binary.value (x : Binary) : ℚ := x.mantissa * 2 ^ x.exponent

/-- The lower end of the reals that round to the number, in units of its mantissa. -/
def Binary.lower (x : Binary) : ℚ := if x.narrowBelow then x.mantissa - 1 / 4 else x.mantissa - 1 / 2

/-- A real, in units of the mantissa, is among those that round to the number. -/
structure Binary.Spans (x : Binary) (s : ℚ) : Prop where
  below : x.lower < s ∨ Even x.mantissa ∧ x.lower = s
  above : s < x.mantissa + 1 / 2 ∨ Even x.mantissa ∧ s = x.mantissa + 1 / 2

/-- A real is among those that round to the number. -/
def Binary.Holds (x : Binary) (q : ℚ) : Prop := x.Spans (q / 2 ^ x.exponent)

/-- A floating number holds its own value. -/
theorem Binary.holds_value (x : Binary) (hpos : 0 < x.mantissa) : x.Holds x.value := by
  have hscaled : x.value / 2 ^ x.exponent = x.mantissa := by
    unfold Binary.value
    field_simp
  unfold Binary.Holds
  rw [hscaled]
  refine ⟨.inl ?_, .inl (by linarith)⟩
  unfold Binary.lower
  split <;> linarith

/-- The mantissa and the exponent are those of a floating number, and the numbers below it are as dense
as its mantissa says. -/
structure Binary.Regular (x : Binary) : Prop where
  canonical : Canonical x.mantissa x.exponent
  narrow : x.narrowBelow = true ↔ x.mantissa = 2 ^ 52 ∧ -1074 < x.exponent

theorem Binary.half_le_lower (x : Binary) : (x.mantissa : ℚ) - 1 / 2 ≤ x.lower := by
  unfold Binary.lower
  split <;> linarith

theorem Binary.Spans.nearest {x : Binary} {s : ℚ} (h : x.Spans s) : Nearest x.mantissa s := by
  have hlower := x.half_le_lower
  refine ⟨?_, h.above⟩
  rcases h.below with hbelow | ⟨heven, hbelow⟩
  · exact .inl (by linarith)
  · rcases hlower.lt_or_eq with hlt | heq
    · exact .inl (by linarith)
    · exact .inr ⟨heven, by linarith⟩

/-! ## Rounding -/

section

variable {x : Binary} (hx : x.Regular) {s : ℚ} (hs : x.Spans s) {T : ℤ} {em : ExtendedMantissa}
  (hloc : Locates em (s * 2 ^ (x.exponent - T)))

theorem Binary.Spans.bounds {x : Binary} {s : ℚ} (hs : x.Spans s) :
    x.lower ≤ s ∧ s ≤ x.mantissa + 1 / 2 :=
  ⟨hs.below.elim le_of_lt fun h => h.2.le, hs.above.elim le_of_lt fun h => h.2.le⟩

include hx hs hloc

/-- A real that is located below the exponent of the number lies in the quarter below the least mantissa,
and is rounded up to the next power of two. -/
theorem Binary.Spans.rounded_up (hT : T < x.exponent) (hlt : em.mantissa < 2 ^ 53) (hleast : -1074 ≤ T) :
    em.roundedMantissa = 2 ^ 53 ∧ x.mantissa = 2 ^ 52 ∧ T + 1 = x.exponent := by
  obtain ⟨hle, -⟩ := hs.bounds
  have hceil := hloc.bounds.2
  have hsum : (em.mantissa : ℚ) + 1 ≤ 2 ^ 53 := by exact_mod_cast hlt
  have hlower := x.half_le_lower
  -- the exponent of the number is not the least one, so its mantissa has all bits
  have hnormal : 2 ^ 52 ≤ x.mantissa := hx.canonical.normal.resolve_left (by omega)
  obtain ⟨k, hk⟩ : ∃ k : ℕ, x.exponent - T = k + 1 := ⟨(x.exponent - T - 1).toNat, by omega⟩
  have hpower : (1 : ℚ) ≤ 2 ^ k := one_le_pow₀ (by norm_num)
  rw [hk, zpow_add_one₀ (by norm_num), zpow_natCast] at hloc hceil
  have hm : x.mantissa = 2 ^ 52 := by
    by_contra hne
    have : (2 : ℚ) ^ 52 + 1 ≤ x.mantissa := by exact_mod_cast Nat.lt_of_le_of_ne hnormal (Ne.symm hne)
    nlinarith
  have hnarrow : x.lower = 2 ^ 52 - 1 / 4 := by
    rw [Binary.lower, if_pos (hx.narrow.2 ⟨hm, by omega⟩), hm]
    norm_num
  have hzero : k = 0 := by
    by_contra hne
    have : (2 : ℚ) ^ 1 ≤ 2 ^ k := pow_le_pow_right₀ (by norm_num) (by omega)
    nlinarith
  subst hzero
  refine ⟨hloc.nearest.unique ⟨?_, .inl ?_⟩, hm, by omega⟩
  · have : (2 : ℚ) ^ 53 - 1 / 2 ≤ s * (2 ^ 0 * 2) := by linarith
    rcases this.lt_or_eq with h | h
    · exact .inl (by exact_mod_cast h)
    · exact .inr ⟨by decide, by exact_mod_cast h⟩
  · push_cast
    linarith

/-- No real is located with all bits above the exponent of the number. -/
theorem Binary.Spans.le_exponent (hstart : T = -1074 ∨ 2 ^ 52 ≤ em.mantissa) : T ≤ x.exponent := by
  by_contra hT
  have hleast := hx.canonical.least
  obtain ⟨-, hge⟩ := hs.bounds
  have hfloor := hloc.bounds.1
  have hmantissa : (x.mantissa : ℚ) + 1 ≤ 2 ^ 53 := by exact_mod_cast hx.canonical.lt
  have hnormal : (2 : ℚ) ^ 52 ≤ em.mantissa := by exact_mod_cast hstart.resolve_left (by omega)
  obtain ⟨k, hk⟩ : ∃ k : ℕ, T - x.exponent = k + 1 := ⟨(T - x.exponent - 1).toNat, by omega⟩
  have hscale : s = s * 2 ^ (x.exponent - T) * (2 ^ k * 2) := by
    rw [← zpow_natCast, ← zpow_add_one₀ (by norm_num), ← hk, mul_assoc, ← zpow_add₀ (by norm_num)]
    simp
  have hpower : (1 : ℚ) ≤ 2 ^ k := one_le_pow₀ (by norm_num)
  nlinarith

/-- A real that a number holds, located at some exponent from the least one on with all 53 bits, is
located at the exponent of the number, or else rounded up to the next power of two. -/
theorem Binary.Spans.rounded (hlt : em.mantissa < 2 ^ 53) (hleast : -1074 ≤ T)
    (hstart : T = -1074 ∨ 2 ^ 52 ≤ em.mantissa) :
    em.roundedMantissa = x.mantissa ∧ T = x.exponent ∨
      em.roundedMantissa = 2 ^ 53 ∧ x.mantissa = 2 ^ 52 ∧ T + 1 = x.exponent := by
  rcases (hs.le_exponent hx hloc hstart).lt_or_eq with hT | rfl
  · exact .inr (hs.rounded_up hx hloc hT hlt hleast)
  · rw [sub_self, zpow_zero, mul_one] at hloc
    exact .inl ⟨hloc.nearest.unique hs.nearest, rfl⟩

end

theorem leading_lt (m : ℕ) : m / 2 ^ (m.log2 - 52) < 2 ^ 53 := by
  rcases Nat.eq_zero_or_pos m with rfl | hm
  · decide
  · exact (leading_bits hm).2.1

/-- The second shift of a rounding ends at the mantissa and the exponent of the number. -/
theorem shifted_back {x : Binary} (hx : x.Regular) (hpos : 0 < x.mantissa) {r : ℕ} {T : ℤ}
    (hleast : -1074 ≤ T)
    (hr : r = x.mantissa ∧ T = x.exponent ∨
      r = 2 ^ 53 ∧ x.mantissa = 2 ^ 52 ∧ T + 1 = x.exponent) :
    (shiftToTargetExponent Format.binary64 r T .exact).1.mantissa = x.mantissa ∧
      (shiftToTargetExponent Format.binary64 r T .exact).2 = x.exponent := by
  obtain ⟨hmantissa, hexponent⟩ := shiftToTargetExponent_eq (m := r) hleast .exact
  rw [hmantissa, hexponent]
  rcases hr with ⟨rfl, rfl⟩ | ⟨rfl, hm, hT⟩
  · have hlog : x.mantissa.log2 - 52 = 0 := by
      have := (Nat.log2_lt (Nat.ne_of_gt hpos)).2 hx.canonical.lt
      omega
    rw [hlog, pow_zero, Nat.div_one]
    exact ⟨rfl, add_zero _⟩
  · rw [Nat.log2_two_pow, hm]
    exact ⟨by decide, hT⟩

/-- A located real that a floating number holds is rounded to that number. -/
theorem Binary.Holds.roundWithAccuracy_eq {x : Binary} (hx : x.Regular) (hpos : 0 < x.mantissa) {q : ℚ}
    (hq : x.Holds q) {m : ℕ} {e : ℤ} (he : -1074 ≤ e) (hstart : e = -1074 ∨ 52 ≤ m.log2) {a : Accuracy}
    (hloc : Locates (.ofMantissaAndAccuracy m a) (q / 2 ^ e)) (s : Sign) :
    roundWithAccuracy Format.binary64 s m e a = .finite s x.mantissa x.exponent hpos := by
  obtain ⟨hfirst, hexponent⟩ := shiftToTargetExponent_eq (m := m) he a
  have hshifted : Locates (shiftToTargetExponent Format.binary64 m e a).1
      (q / 2 ^ (shiftToTargetExponent Format.binary64 m e a).2) := by
    unfold shiftToTargetExponent shiftToExponent
    rw [zpow_add₀ (by norm_num), zpow_natCast, ← div_div]
    exact hloc.shiftRight _
  unfold roundWithAccuracy
  generalize shiftToTargetExponent Format.binary64 m e a = shifted at hfirst hexponent hshifted
  obtain ⟨em, T⟩ := shifted
  dsimp only at hfirst hexponent hshifted ⊢
  have hscaled : q / 2 ^ T = q / 2 ^ x.exponent * 2 ^ (x.exponent - T) := by
    rw [zpow_sub₀ (by norm_num)]
    field_simp
  have hleading : T = -1074 ∨ 2 ^ 52 ≤ em.mantissa := by
    by_cases hlog : 52 ≤ m.log2
    · have hm : 0 < m := Nat.pos_of_ne_zero (by rintro rfl; exact absurd hlog (by decide))
      rw [hfirst]
      exact .inr ((leading_bits hm).2.2 hlog)
    · left
      have := hstart.resolve_right hlog
      omega
  obtain ⟨hmantissa, hfinal⟩ := shifted_back hx hpos (T := T) (by omega)
    (Binary.Spans.rounded hx hq (hscaled ▸ hshifted) (hfirst ▸ leading_lt m) (by omega) hleading)
  rw [dif_neg (by omega)]
  congr 1

end StoryRules.Decimal
