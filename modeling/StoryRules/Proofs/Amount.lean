import StoryRules.Proofs.Draw
import StoryRules.Proofs.Floating
import StoryRules.Proofs.Number

/-!
# Weighing running amounts

Weights that are whole or floating numbers add up as weights should: the sum of amounts that are not
below zero is not, and it is above zero just if one of them is.
-/

namespace StoryRules.Amount

open Float.Model UnpackedFloat

/-- The least whole number that has too many digits to be written. -/
def longWhole : Int := 10 ^ digitLimit

theorem whole?_eq_some {a : Amount} {n : Int} : Number.whole? a = some n ↔ a = .int n := by
  cases a <;> simp [Number.whole?, whole?]

/-- How zero compares with an amount; it does not compare with a number that is none. -/
def zeroTo : Amount → Option Ordering
  | .int n => some (compare 0 n)
  | .float x => signOf x.toModel.unpack

theorem zero_compare? (a : Amount) : (int 0).compare? a = zeroTo a := by
  cases a with
  | int n => rfl
  | float x => exact compareFloat?_zero x

theorem compare?_zero (a : Amount) : a.compare? (int 0) = (zeroTo a).map Ordering.swap := by
  cases a with
  | int n =>
    show some (compare n 0) = some (compare 0 n).swap
    rw [Int.compare_swap]
  | float x =>
    show (compareFloat? 0 x).map Ordering.swap = _
    rw [compareFloat?_zero]
    rfl

theorem zeroTo_int_ne_gt (n : Int) : zeroTo (int n) ≠ some .gt ↔ 0 ≤ n := by
  show some (compare 0 n) ≠ some .gt ↔ _
  rw [Ne, Option.some.injEq, Int.compare_eq_gt, Int.not_lt]

/-- A number is equal to itself, and what is no number does not even compare with itself. -/
theorem unpacked_compare_self (u : UnpackedFloat) :
    u.compare u = if signOf u = none then none else some .eq := by
  rcases u with ⟨_ | _⟩ | _ | _ | ⟨_ | _⟩
  · rfl
  · rfl
  · rfl
  · rfl
  · simp [UnpackedFloat.compare, signOf]
  · simp [UnpackedFloat.compare, signOf]

theorem isNumber_iff (a : Amount) : Number.IsNumber a ↔ zeroTo a ≠ none := by
  show decide (a.compare? a = some .eq) = true ↔ _
  rw [decide_eq_true_iff]
  cases a with
  | int n =>
    refine ⟨fun _ => nofun, fun _ => ?_⟩
    show some (compare n n) = some .eq
    rw [Int.compare_eq_eq.2 rfl]
  | float x =>
    have hself := unpacked_compare_self x.toModel.unpack
    have hlt : ¬x < x := by
      rw [float_lt_iff, hself]
      split <;> exact nofun
    unfold compare? zeroTo
    dsimp only
    rw [if_neg hlt, if_neg hlt]
    by_cases hnan : signOf x.toModel.unpack = none
    · have heq : ¬(x == x) = true := by
        rw [float_beq_iff, hself, if_pos hnan]
        exact nofun
      rw [if_neg heq]
      exact ⟨nofun, fun h => absurd hnan h⟩
    · have heq : (x == x) = true := by
        rw [float_beq_iff, hself, if_neg hnan]
      rw [if_pos heq]
      exact ⟨fun _ => hnan, fun _ => rfl⟩

theorem isPositive_eq (a : Amount) : Number.isPositive a = decide (zeroTo a = some .lt) := by
  rw [← zero_compare?]
  rfl

theorem less_zero_eq (a : Amount) :
    Number.less a (Number.whole 0) = decide (zeroTo a = some .gt) := by
  show decide (a.compare? (int 0) = some .lt) = _
  rw [compare?_zero]
  rcases zeroTo a with _ | _ | _ | _ <;> rfl

theorem atMost_zero_eq (a : Amount) : Number.atMost a (Number.whole 0) =
    (decide (zeroTo a = some .gt) || decide (zeroTo a = some .eq)) := by
  unfold Number.atMost
  rw [less_zero_eq]
  congr 1
  show decide (a.compare? (int 0) = some .eq) = _
  rw [compare?_zero]
  rcases zeroTo a with _ | _ | _ | _ <;> rfl

theorem positivePart_int (n : Int) : Draw.positivePart (int n) = int (max n 0) := by
  show Number.larger (int n) (int 0) = _
  unfold Number.larger
  rw [less_int]
  by_cases h : n < 0
  · rw [if_pos (by simpa using h), Int.max_eq_right (Int.le_of_lt h)]
  · rw [if_neg (by simpa using h), Int.max_eq_left (by omega)]

/-- Converting an amount that is not below zero keeps its sign. -/
theorem signOf_toFloat {a : Amount} {x : Float} (ha : zeroTo a ≠ some .gt) (h : a.toFloat = .ok x) :
    signOf x.toModel.unpack = zeroTo a := by
  cases a with
  | float y =>
    cases h
    rfl
  | int n =>
    have hn := (zeroTo_int_ne_gt n).1 ha
    unfold toFloat ofIntFloat? at h
    dsimp only at h
    split at h
    · next y hy =>
      cases h
      split at hy
      · cases hy
      · cases hy
        exact signOf_ofInt hn
    · cases h

/-- The sum of amounts that are not below zero is not, and above zero just if one of them is. -/
theorem zeroTo_add {a b c : Amount} (ha : zeroTo a ≠ none) (ha' : zeroTo a ≠ some .gt)
    (hb : zeroTo b ≠ none) (hb' : zeroTo b ≠ some .gt) (h : Number.add a b = .ok c) :
    zeroTo c = if zeroTo a = some .lt then some .lt else zeroTo b := by
  have hfloat : ∀ {x y : Float}, a.toFloat = .ok x → b.toFloat = .ok y →
      zeroTo (.float (x + y)) = if zeroTo a = some .lt then some .lt else zeroTo b := by
    intro x y hx hy
    have hxa := signOf_toFloat ha' hx
    have hyb := signOf_toFloat hb' hy
    rw [← hxa] at ha ha'
    rw [← hyb] at hb hb'
    rw [← hxa, ← hyb]
    exact signOf_float_add (nonneg_iff.2 ⟨ha, ha'⟩) (nonneg_iff.2 ⟨hb, hb'⟩)
  have hconverted : (do let x ← a.toFloat; let y ← b.toFloat; Except.ok (float (x + y))) = .ok c →
      zeroTo c = if zeroTo a = some .lt then some .lt else zeroTo b := by
    intro h
    obtain ⟨x, hx, h⟩ := bind_eq_ok.1 h
    obtain ⟨y, hy, h⟩ := bind_eq_ok.1 h
    cases h
    exact hfloat hx hy
  cases a with
  | float x => exact hconverted h
  | int m =>
    cases b with
    | float y => exact hconverted h
    | int n =>
      cases h
      rw [zeroTo_int_ne_gt] at ha' hb'
      show some (compare 0 (m + n)) = if some (compare 0 m) = some .lt then _ else some (compare 0 n)
      by_cases hm : 0 < m
      · rw [Int.compare_eq_lt.2 hm, if_pos rfl, Int.compare_eq_lt.2 (by omega)]
      · obtain rfl : m = 0 := by omega
        rw [Int.zero_add]
        rfl

end StoryRules.Amount

namespace StoryRules

instance : WeighingNumber Amount where
  zero := rfl
  atMost_zero a ha := by
    rw [Amount.isNumber_iff] at ha
    rw [Amount.atMost_zero_eq, Amount.isPositive_eq]
    rcases hsign : Amount.zeroTo a with _ | _ | _ | _
    · exact absurd hsign ha
    · rfl
    · rfl
    · rfl
  add a b c ha hb hna hnb h := by
    rw [Amount.isNumber_iff] at ha hb ⊢
    rw [Amount.less_zero_eq, decide_eq_false_iff_not] at hna hnb ⊢
    rw [Amount.isPositive_eq, Amount.isPositive_eq, Amount.isPositive_eq,
      Amount.zeroTo_add ha hna hb hnb h]
    by_cases hpos : Amount.zeroTo a = some .lt
    · rw [if_pos hpos]
      exact ⟨nofun, nofun, by simp [hpos]⟩
    · rw [if_neg hpos]
      exact ⟨hb, hnb, by simp [hpos]⟩

end StoryRules
