import StoryRules.Draw
import StoryRules.Proofs.Step

/-!
# What is drawn

A draw is made just if some weight is above zero, and it is one draw then.  It selects a position whose
weight is above zero, whatever value is drawn.

    pick weights draws = (.ok none, rest) → rest = draws ∧ weights.any isPositive = false
    pick weights draws = (.ok (some i), rest) →
      rest = draws.skip 1 ∧ Selects weights (draws.value draws.used) i      (pick_eq_ok)
-/

namespace StoryRules

variable {α : Type}

/-! ## Feeds -/

namespace Feed

variable {β : Type}

/-- The feed without its next values. -/
def skip (f : Feed β) (n : Nat) : Feed β := { f with used := f.used + n }

/-- The next values. -/
def taken (f : Feed β) (n : Nat) : List β := (List.range n).map fun k => f.value (f.used + k)

theorem skip_skip (f : Feed β) (m n : Nat) : (f.skip m).skip n = f.skip (m + n) := by
  simp [skip, Nat.add_assoc]

theorem taken_add (f : Feed β) (m n : Nat) :
    f.taken (m + n) = f.taken m ++ (f.skip m).taken n := by
  simp [taken, skip, List.range_add, Nat.add_assoc, Function.comp_def]

end Feed

/-! ## Weights -/

variable [Number α]

/-- Whether an amount is a number at all. -/
def Number.IsNumber (a : α) : Prop := Number.same a a = true

/-- Every number is above zero or at most zero, and amounts that are not below zero add up to one that
is above zero just if one of them is. -/
class WeighingNumber (α : Type) [Number α] : Prop where
  zero : Number.IsNumber (Number.whole 0 : α)
  atMost_zero : ∀ a : α, Number.IsNumber a →
    Number.atMost a (Number.whole 0) = !Number.isPositive a
  add : ∀ a b c : α, Number.IsNumber a → Number.IsNumber b →
    Number.less a (Number.whole 0) = false → Number.less b (Number.whole 0) = false →
    Number.add a b = .ok c →
    Number.IsNumber c ∧ Number.less c (Number.whole 0) = false ∧
      Number.isPositive c = (Number.isPositive a || Number.isPositive b)

namespace Draw

/-- A weight that counts: a number that is not below zero. -/
structure Counts (a : α) : Prop where
  number : Number.IsNumber a
  nonneg : Number.less a (Number.whole 0) = false

section

variable [WeighingNumber α]

theorem isPositive_zero : Number.isPositive (Number.whole 0 : α) = false := by
  have h := WeighingNumber.atMost_zero (Number.whole 0 : α) WeighingNumber.zero
  cases hpos : Number.isPositive (Number.whole 0 : α) with
  | false => rfl
  | true =>
    rw [hpos] at h
    unfold Number.atMost at h
    unfold Number.isPositive at hpos
    rw [hpos] at h
    cases h

theorem counts_zero : Counts (Number.whole 0 : α) :=
  ⟨WeighingNumber.zero, isPositive_zero⟩

theorem counts_positivePart {a : α} (h : Number.IsNumber a) : Counts (positivePart a) := by
  unfold positivePart Number.larger
  split
  · exact counts_zero
  · next hless => exact ⟨h, by simpa using hless⟩

/-- What is not above zero counts as zero. -/
theorem isPositive_positivePart {a : α} (h : Number.IsNumber a) :
    Number.isPositive (positivePart a) = Number.isPositive a := by
  unfold positivePart Number.larger
  split
  · next hless =>
    have hmost := WeighingNumber.atMost_zero a h
    unfold Number.atMost at hmost
    rw [hless, Bool.true_or] at hmost
    rw [isPositive_zero]
    cases hpos : Number.isPositive a with
    | false => rfl
    | true =>
      rw [hpos] at hmost
      cases hmost
  · rfl

theorem sumFrom_counts {weights : List α} (h : ∀ w ∈ weights, Counts w) :
    ∀ {start total : α}, Counts start → Number.sumFrom start weights = .ok total →
      Counts total ∧
        Number.isPositive total = (Number.isPositive start || weights.any Number.isPositive) := by
  induction weights with
  | nil =>
    rintro start total hstart ⟨⟩
    simpa using hstart
  | cons w rest ih =>
    intro start total hstart hsum
    rw [Number.sumFrom] at hsum
    obtain ⟨next, hadd, hsum⟩ := bind_eq_ok.1 hsum
    have hw := h w List.mem_cons_self
    obtain ⟨hnumber, hnonneg, hpos⟩ :=
      WeighingNumber.add start w next hstart.number hw.number hstart.nonneg hw.nonneg hadd
    obtain ⟨htotal, hany⟩ := ih (fun x hx => h x (List.mem_cons_of_mem _ hx)) ⟨hnumber, hnonneg⟩ hsum
    refine ⟨htotal, ?_⟩
    rw [hany, hpos, List.any_cons, Bool.or_assoc]

theorem any_positiveParts {weights : List α} (h : ∀ w ∈ weights, Number.IsNumber w) :
    (weights.map positivePart).any Number.isPositive = weights.any Number.isPositive := by
  induction weights with
  | nil => rfl
  | cons w rest ih =>
    rw [List.map_cons, List.any_cons, List.any_cons,
      isPositive_positivePart (h w List.mem_cons_self),
      ih fun x hx => h x (List.mem_cons_of_mem _ hx)]

/-- The total of the positive parts is above zero just if a weight is. -/
theorem sum_positiveParts {weights : List α} (h : ∀ w ∈ weights, Number.IsNumber w) {total : α}
    (hsum : Number.sum (weights.map positivePart) = .ok total) :
    Number.atMost total (Number.whole 0) = !weights.any Number.isPositive := by
  have hcounts : ∀ w ∈ weights.map positivePart, Counts w := by
    intro w hw
    obtain ⟨a, ha, rfl⟩ := List.mem_map.1 hw
    exact counts_positivePart (h a ha)
  obtain ⟨htotal, hany⟩ := sumFrom_counts hcounts counts_zero hsum
  rw [WeighingNumber.atMost_zero total htotal.number, hany, isPositive_zero, any_positiveParts h,
    Bool.false_or]

end

/-! ## Positions -/

theorem settle_bounds {weights : List α} : ∀ {i : Nat} {roll : α} {j : Nat},
    settle i roll weights = .ok (some j) → i ≤ j ∧ ∃ w, weights[j - i]? = some w ∧
      Number.atMost w (Number.whole 0) = false := by
  induction weights with
  | nil =>
    intro i roll j h
    cases h
  | cons w rest ih =>
    intro i roll j h
    have hlater : ∀ {roll : α}, settle (i + 1) roll rest = .ok (some j) → i ≤ j ∧
        ∃ v, (w :: rest)[j - i]? = some v ∧ Number.atMost v (Number.whole 0) = false := by
      intro roll h
      obtain ⟨hle, v, hv, hpos⟩ := ih h
      refine ⟨by omega, v, ?_, hpos⟩
      rw [← hv, show j - i = j - (i + 1) + 1 by omega, List.getElem?_cons_succ]
    rw [settle] at h
    split at h
    · exact hlater h
    · next hpos =>
      obtain ⟨left, -, h⟩ := bind_eq_ok.1 h
      split at h
      · cases h
        exact ⟨Nat.le_refl _, w, by simp, by simpa using hpos⟩
      · exact hlater h

theorem lastPositive?_bounds {weights : List α} : ∀ {i j : Nat},
    lastPositive? i weights = some j → i ≤ j ∧ ∃ w, weights[j - i]? = some w ∧
      Number.isPositive w = true := by
  induction weights with
  | nil =>
    intro i j h
    cases h
  | cons w rest ih =>
    intro i j h
    rw [lastPositive?] at h
    split at h
    · next k hk =>
      cases h
      obtain ⟨hle, v, hv, hpos⟩ := ih hk
      refine ⟨by omega, v, ?_, hpos⟩
      rw [← hv, show j - i = j - (i + 1) + 1 by omega, List.getElem?_cons_succ]
    · split at h
      · next hpos =>
        cases h
        exact ⟨Nat.le_refl _, w, by simp, hpos⟩
      · cases h

theorem lastPositive?_isSome {weights : List α} (h : weights.any Number.isPositive = true) :
    ∀ i, (lastPositive? i weights).isSome = true := by
  induction weights with
  | nil => cases h
  | cons w rest ih =>
    intro i
    rw [lastPositive?]
    cases hrest : lastPositive? (i + 1) rest with
    | some j => rfl
    | none =>
      have hlater : rest.any Number.isPositive = false := by
        cases hany : rest.any Number.isPositive with
        | false => rfl
        | true =>
          have := ih hany (i + 1)
          rw [hrest] at this
          cases this
      rw [List.any_cons, hlater, Bool.or_false] at h
      dsimp only
      rw [if_pos h]
      rfl

/-- The position that the value of a draw selects. -/
def Selects (weights : List α) (draw : α) (i : Nat) : Prop :=
  (pick weights (.always draw)).1 = .ok (some i)

theorem Selects.unique {weights : List α} {draw : α} {i j : Nat} (hi : Selects weights draw i)
    (hj : Selects weights draw j) : i = j := by
  unfold Selects at hi hj
  rw [hi] at hj
  cases hj
  rfl

variable [WeighingNumber α]

theorem position_bounds {weights : List α} (hweights : ∀ w ∈ weights, Number.IsNumber w)
    {total draw : α} {r : Option Nat} (hany : weights.any Number.isPositive = true)
    (h : position (weights.map positivePart) total draw = .ok r) :
    ∃ i, r = some i ∧ ∃ w, weights[i]? = some w ∧ Number.isPositive w = true := by
  have hpart : ∀ {i : Nat} {v : α}, (weights.map positivePart)[i]? = some v →
      Number.isPositive v = true → ∃ w, weights[i]? = some w ∧ Number.isPositive w = true := by
    intro i v hv hpos
    rw [List.getElem?_map] at hv
    obtain ⟨w, hw, rfl⟩ := Option.map_eq_some_iff.1 hv
    rw [isPositive_positivePart (hweights w (List.mem_of_getElem? hw))] at hpos
    exact ⟨w, hw, hpos⟩
  unfold position at h
  obtain ⟨roll, -, h⟩ := bind_eq_ok.1 h
  obtain ⟨settled, hsettled, h⟩ := bind_eq_ok.1 h
  cases settled with
  | some i =>
    cases h
    obtain ⟨-, v, hv, hmost⟩ := settle_bounds hsettled
    rw [Nat.sub_zero] at hv
    have hcounts : Counts v := by
      obtain ⟨a, ha, rfl⟩ := List.mem_map.1 (List.mem_of_getElem? hv)
      exact counts_positivePart (hweights a ha)
    rw [WeighingNumber.atMost_zero v hcounts.number, Bool.not_eq_false'] at hmost
    exact ⟨i, rfl, hpart hv hmost⟩
  | none =>
    cases h
    have hparts : (weights.map positivePart).any Number.isPositive = true := by
      rw [any_positiveParts hweights, hany]
    obtain ⟨i, hi⟩ := Option.isSome_iff_exists.1 (lastPositive?_isSome hparts 0)
    obtain ⟨-, v, hv, hpos⟩ := lastPositive?_bounds hi
    rw [Nat.sub_zero] at hv
    exact ⟨i, hi, hpart hv hpos⟩

/-- Where no weight is above zero nothing is drawn, and no draw is made. -/
theorem pick_nothing {weights : List α} (hweights : ∀ w ∈ weights, Number.IsNumber w) {total : α}
    (hsum : Number.sum (weights.map positivePart) = .ok total)
    (hnone : weights.any Number.isPositive = false) (draws : Feed α) :
    pick weights draws = (.ok none, draws) := by
  have hmost : Number.atMost total (Number.whole 0) = true := by
    rw [sum_positiveParts hweights hsum, hnone]
    rfl
  unfold pick
  dsimp only
  rw [hsum]
  dsimp only
  rw [if_pos hmost]

/-- Nothing is drawn where no weight is above zero; else one draw is used up, and it selects a position
whose weight is above zero. -/
theorem pick_eq_ok {weights : List α} (hweights : ∀ w ∈ weights, Number.IsNumber w)
    {draws rest : Feed α} {r : Option Nat} (h : pick weights draws = (.ok r, rest)) :
    weights.any Number.isPositive = false ∧ r = none ∧ rest = draws ∨
      weights.any Number.isPositive = true ∧ rest = draws.skip 1 ∧
        ∃ i, r = some i ∧ Selects weights draws.next.1 i ∧
          ∃ w, weights[i]? = some w ∧ Number.isPositive w = true := by
  unfold pick at h
  dsimp only at h
  split at h
  · cases h
  · next total hsum =>
    have hmost := sum_positiveParts hweights hsum
    split at h
    · next hzero =>
      rw [hzero] at hmost
      cases h
      exact .inl ⟨by simpa using hmost.symm, rfl, rfl⟩
    · next hzero =>
      rw [Bool.not_eq_true] at hzero
      rw [hzero] at hmost
      have hany : weights.any Number.isPositive = true := by simpa using hmost.symm
      obtain ⟨hposition, rfl⟩ := Prod.mk.inj h
      obtain ⟨i, rfl, hw⟩ := position_bounds hweights hany hposition
      refine .inr ⟨hany, rfl, i, rfl, ?_, hw⟩
      unfold Selects pick
      dsimp only
      rw [hsum]
      dsimp only
      rw [hzero]
      exact hposition

end Draw

end StoryRules
