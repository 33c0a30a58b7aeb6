import StoryRules.Proofs.Amount

/-!
# When nothing is drawn

A draw comes to nothing just if no weight is above zero.  This holds of all weights, among them those that
are no numbers: they spoil the total, and with it every roll, and then the last weight above zero is drawn.

    pick weights draws = (.ok r, rest) → (r = none ↔ weights.any isPositive = false)      (pick_eq_none_iff)
-/

namespace StoryRules

/-- What is no number is not compared with zero, and gives no number when something is added to it or taken
off. -/
class SpoilingNumber (α : Type) [Number α] : Prop extends WeighingNumber α where
  isPositive : ∀ a : α, Number.isPositive a = true → Number.IsNumber a
  atMost : ∀ a : α, Number.atMost a (Number.whole 0) = true → Number.IsNumber a
  spoils : ∀ a b c : α, Number.add a b = .ok c → Number.IsNumber c →
    Number.IsNumber a ∧ Number.IsNumber b
  sub : ∀ a b c : α, Number.sub a b = .ok c → Number.IsNumber c → Number.IsNumber b

namespace Draw

variable {α : Type} [Number α] [SpoilingNumber α]

theorem isPositive_part (a : α) : Number.isPositive (positivePart a) = Number.isPositive a := by
  by_cases h : Number.IsNumber a
  · exact isPositive_positivePart h
  · have hnot : Number.isPositive a = false := by
      rw [← Bool.not_eq_true]
      exact mt (SpoilingNumber.isPositive a) h
    unfold positivePart Number.larger
    split
    · rw [isPositive_zero, hnot]
    · rfl

theorem any_parts (weights : List α) :
    (weights.map positivePart).any Number.isPositive = weights.any Number.isPositive := by
  rw [List.any_map]
  exact congrArg weights.any (funext isPositive_part)

/-- A part that is a number counts, even where the weight is none. -/
theorem counts_part {a : α} (h : Number.IsNumber (positivePart a)) : Counts (positivePart a) := by
  unfold positivePart Number.larger at h ⊢
  split
  · exact counts_zero
  · next hless =>
    rw [if_neg hless] at h
    exact ⟨h, by simpa using hless⟩

/-- Only numbers add up to a number. -/
theorem isNumber_of_sumFrom {weights : List α} : ∀ {start total : α},
    Number.sumFrom start weights = .ok total → Number.IsNumber total →
      Number.IsNumber start ∧ ∀ w ∈ weights, Number.IsNumber w := by
  induction weights with
  | nil =>
    rintro start total ⟨⟩ htotal
    exact ⟨htotal, fun w hw => absurd hw List.not_mem_nil⟩
  | cons w rest ih =>
    intro start total hsum htotal
    rw [Number.sumFrom] at hsum
    obtain ⟨next, hadd, hsum⟩ := bind_eq_ok.1 hsum
    obtain ⟨hnext, hrest⟩ := ih hsum htotal
    obtain ⟨hstart, hw⟩ := SpoilingNumber.spoils start w next hadd hnext
    exact ⟨hstart, List.forall_mem_cons.2 ⟨hw, hrest⟩⟩

/-- The total is zero only if no weight is above zero. -/
theorem any_of_atMost_sum {weights : List α} {total : α}
    (hsum : Number.sum (weights.map positivePart) = .ok total)
    (h : Number.atMost total (Number.whole 0) = true) : weights.any Number.isPositive = false := by
  have hnumber := SpoilingNumber.atMost total h
  obtain ⟨-, hparts⟩ := isNumber_of_sumFrom hsum hnumber
  have hcounts : ∀ part ∈ weights.map positivePart, Counts part := by
    intro part hpart
    obtain ⟨a, -, rfl⟩ := List.mem_map.1 hpart
    exact counts_part (hparts _ hpart)
  obtain ⟨-, hany⟩ := sumFrom_counts hcounts counts_zero hsum
  rw [WeighingNumber.atMost_zero total hnumber, hany, isPositive_zero, Bool.false_or, any_parts] at h
  simpa using h

/-- A roll is used up only by a weight above zero. -/
theorem any_of_settle {weights : List α} : ∀ {i j : Nat} {roll : α},
    settle i roll weights = .ok (some j) → weights.any Number.isPositive = true := by
  induction weights with
  | nil =>
    intro i j roll h
    cases h
  | cons w rest ih =>
    intro i j roll h
    rw [List.any_cons, Bool.or_eq_true]
    rw [settle] at h
    split at h
    · exact .inr (ih h)
    · next hpos =>
      obtain ⟨left, hleft, h⟩ := bind_eq_ok.1 h
      split at h
      · next hzero =>
        have hw := SpoilingNumber.sub roll w left hleft (SpoilingNumber.atMost left hzero)
        rw [WeighingNumber.atMost_zero w hw] at hpos
        exact .inl (by simpa using hpos)
      · exact .inr (ih h)

theorem position_eq_none_iff {weights : List α} {total draw : α} {r : Option Nat}
    (h : position weights total draw = .ok r) :
    r = none ↔ weights.any Number.isPositive = false := by
  unfold position at h
  obtain ⟨roll, -, h⟩ := bind_eq_ok.1 h
  obtain ⟨settled, hsettled, h⟩ := bind_eq_ok.1 h
  cases settled with
  | some i =>
    cases h
    exact iff_of_false nofun (by rw [any_of_settle hsettled]; exact nofun)
  | none =>
    cases h
    constructor
    · intro hnone
      rw [← Bool.not_eq_true]
      intro hany
      have := lastPositive?_isSome hany 0
      rw [hnone] at this
      cases this
    · intro hany
      rw [← Option.isNone_iff_eq_none, ← Option.not_isSome, Bool.not_eq_true', ← Bool.not_eq_true,
        Option.isSome_iff_exists]
      rintro ⟨i, hi⟩
      obtain ⟨-, w, hw, hpos⟩ := lastPositive?_bounds hi
      exact absurd (List.any_eq_true.2 ⟨w, List.mem_of_getElem? hw, hpos⟩) (by rw [hany]; exact nofun)

/-- Nothing is drawn just if no weight is above zero. -/
theorem pick_eq_none_iff {weights : List α} {draws rest : Feed α} {r : Option Nat}
    (h : pick weights draws = (.ok r, rest)) : r = none ↔ weights.any Number.isPositive = false := by
  unfold pick at h
  dsimp only at h
  split at h
  · cases h
  · next total hsum =>
    split at h
    · next hzero =>
      cases h
      exact iff_of_true rfl (any_of_atMost_sum hsum hzero)
    · obtain ⟨hposition, -⟩ := Prod.mk.inj h
      rw [position_eq_none_iff hposition, any_parts]

end Draw

/-! ## Running amounts -/

namespace Amount

open Float.Model UnpackedFloat

theorem signOf_eq_none {u : UnpackedFloat} : signOf u = none ↔ u = .notANumber := by
  rcases u with ⟨_ | _⟩ | _ | _ | ⟨_ | _⟩ <;> simp [signOf]

/-- What is no number spoils every sum, and every difference it is taken off in. -/
theorem signOf_spoiled {u v : UnpackedFloat} :
    (signOf u = none ∨ signOf v = none →
      UnpackedFloat.add Format.binary64 u v = .notANumber) ∧
    (signOf v = none → UnpackedFloat.sub Format.binary64 u v = .notANumber) := by
  rw [signOf_eq_none, signOf_eq_none]
  constructor
  · rintro (rfl | rfl)
    · cases v <;> rfl
    · cases u <;> rfl
  · rintro rfl
    cases u <;> rfl

theorem signOf_float_add_ne_none {x y : Float} (h : signOf (x + y).toModel.unpack ≠ none) :
    signOf x.toModel.unpack ≠ none ∧ signOf y.toModel.unpack ≠ none := by
  rw [← not_or]
  intro hspoiled
  refine h ?_
  show signOf (Float.Model.pack (UnpackedFloat.add Format.binary64 x.toModel.unpack
    y.toModel.unpack)).unpack = none
  rw [signOf_spoiled.1 hspoiled]
  exact signOf_unpack_pack (u := .notANumber) trivial

theorem signOf_float_sub_ne_none {x y : Float} (h : signOf (x - y).toModel.unpack ≠ none) :
    signOf y.toModel.unpack ≠ none := by
  intro hspoiled
  refine h ?_
  show signOf (Float.Model.pack (UnpackedFloat.sub Format.binary64 x.toModel.unpack
    y.toModel.unpack)).unpack = none
  rw [signOf_spoiled.2 hspoiled]
  exact signOf_unpack_pack (u := .notANumber) trivial

theorem isNumber_int (n : Int) : Number.IsNumber (int n) := (isNumber_iff _).2 nofun

/-- An amount that is converted to a number is one. -/
theorem isNumber_of_toFloat {a : Amount} {x : Float} (h : a.toFloat = .ok x)
    (hx : signOf x.toModel.unpack ≠ none) : Number.IsNumber a := by
  cases a with
  | int n => exact isNumber_int n
  | float y =>
    cases h
    exact (isNumber_iff _).2 hx

/-- Amounts are combined as whole numbers, or converted first. -/
theorem combine_eq_ok {onInt : Int → Int → Int} {onFloat : Float → Float → Float} {a b c : Amount}
    (h : combine onInt onFloat a b = .ok c) :
    (∃ m n, a = .int m ∧ b = .int n) ∨
      ∃ x y, a.toFloat = .ok x ∧ b.toFloat = .ok y ∧ c = .float (onFloat x y) := by
  have hfloat : (do let x ← a.toFloat; let y ← b.toFloat; Except.ok (float (onFloat x y))) = .ok c →
      ∃ x y, a.toFloat = .ok x ∧ b.toFloat = .ok y ∧ c = .float (onFloat x y) := by
    intro h
    obtain ⟨x, hx, h⟩ := bind_eq_ok.1 h
    obtain ⟨y, hy, h⟩ := bind_eq_ok.1 h
    cases h
    exact ⟨x, y, hx, hy, rfl⟩
  cases a with
  | int m =>
    cases b with
    | int n => exact .inl ⟨m, n, rfl, rfl⟩
    | float y => exact .inr (hfloat h)
  | float x => exact .inr (hfloat h)

end Amount

instance : SpoilingNumber Amount where
  isPositive a h := by
    rw [Amount.isPositive_eq, decide_eq_true_iff] at h
    rw [Amount.isNumber_iff, h]
    exact nofun
  atMost a h := by
    rw [Amount.isNumber_iff]
    intro hnone
    rw [Amount.atMost_zero_eq, hnone] at h
    cases h
  spoils a b c h hc := by
    obtain ⟨m, n, rfl, rfl⟩ | ⟨x, y, hx, hy, rfl⟩ := Amount.combine_eq_ok h
    · exact ⟨Amount.isNumber_int m, Amount.isNumber_int n⟩
    · obtain ⟨hx', hy'⟩ := Amount.signOf_float_add_ne_none ((Amount.isNumber_iff _).1 hc)
      exact ⟨Amount.isNumber_of_toFloat hx hx', Amount.isNumber_of_toFloat hy hy'⟩
  sub a b c h hc := by
    obtain ⟨m, n, rfl, rfl⟩ | ⟨x, y, hx, hy, rfl⟩ := Amount.combine_eq_ok h
    · exact Amount.isNumber_int n
    · exact Amount.isNumber_of_toFloat hy (Amount.signOf_float_sub_ne_none ((Amount.isNumber_iff _).1 hc))

end StoryRules
