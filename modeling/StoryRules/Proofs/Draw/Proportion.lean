import Mathlib.Algebra.Order.BigOperators.Group.List
import Mathlib.Algebra.Order.Field.Basic
import Mathlib.Algebra.Order.Field.Rat
import Mathlib.Tactic.Linarith
import StoryRules.Proofs.Draw
import StoryRules.Proofs.Rational

/-!
# Draws in proportion

On exact weights a draw between zero and one selects the first position at which the weights above zero, added
up so far, reach that part of their total.  So each such weight is selected by an interval of draws that is as
long as the weight is a part of the total, and the rest of the roll is never left over.

    0 < r → r < 1 → (Selects weights r i ↔ low < r ∧ r ≤ high)   where high - low = w / total
                                                                            (pick_proportional)
-/

namespace StoryRules

theorem Rational.isNumber (a : Rat) : Number.IsNumber a := decide_eq_true rfl

/-- Rational weights add up as weights should. -/
instance : WeighingNumber Rat where
  zero := decide_eq_true rfl
  atMost_zero a _ := by
    rw [Bool.eq_iff_iff, Rational.atMost_iff]
    show a ≤ 0 ↔ (!decide (0 < a)) = true
    simp
  add a b c _ _ ha hb h := by
    cases h
    have ha : 0 ≤ a := not_lt.1 (of_decide_eq_false ha)
    have hb : 0 ≤ b := not_lt.1 (of_decide_eq_false hb)
    refine ⟨decide_eq_true rfl, decide_eq_false (not_lt.2 (add_nonneg ha hb)), ?_⟩
    show decide (0 < a + b) = (decide (0 < a) || decide (0 < b))
    rw [← Bool.decide_or, decide_eq_decide]
    constructor
    · intro hsum
      by_contra hnone
      rw [not_or, not_lt, not_lt] at hnone
      linarith
    · rintro (hpos | hpos) <;> linarith

namespace Draw

/-! ## Sums of the weights above zero -/

/-- The sum of the weights above zero. -/
def positiveSum (weights : List Rat) : Rat := (weights.filter (0 < ·)).sum

theorem positivePart_of_pos {w : Rat} (h : 0 < w) : positivePart w = w := by
  unfold positivePart Number.larger
  have hless : Number.less w (Number.whole 0) = false := decide_eq_false (not_lt.2 (le_of_lt h))
  rw [hless]
  rfl

theorem positivePart_of_nonpos {w : Rat} (h : ¬ 0 < w) : positivePart w = 0 := by
  unfold positivePart Number.larger
  rcases lt_or_eq_of_le (not_lt.1 h) with hneg | rfl
  · exact if_pos (decide_eq_true hneg)
  · rfl

theorem positiveSum_nil : positiveSum [] = 0 := rfl

theorem positiveSum_cons (w : Rat) (rest : List Rat) :
    positiveSum (w :: rest) = positivePart w + positiveSum rest := by
  unfold positiveSum
  rw [List.filter_cons]
  by_cases h : 0 < w
  · rw [if_pos (decide_eq_true h), List.sum_cons, positivePart_of_pos h]
  · rw [if_neg (by simpa using h), positivePart_of_nonpos h, zero_add]

theorem positiveSum_append (xs ys : List Rat) :
    positiveSum (xs ++ ys) = positiveSum xs + positiveSum ys := by
  unfold positiveSum
  rw [List.filter_append, List.sum_append]

theorem positiveSum_nonneg (weights : List Rat) : 0 ≤ positiveSum weights := by
  refine List.sum_nonneg fun w hw => ?_
  exact le_of_lt (of_decide_eq_true (List.mem_filter.1 hw).2)

/-- The more weights are added up, the larger is the sum. -/
theorem positiveSum_take_mono (weights : List Rat) {m n : Nat} (h : m ≤ n) :
    positiveSum (weights.take m) ≤ positiveSum (weights.take n) := by
  obtain ⟨k, rfl⟩ := Nat.exists_eq_add_of_le h
  rw [List.take_add, positiveSum_append]
  exact le_add_of_nonneg_right (positiveSum_nonneg _)

theorem positiveSum_take_le (weights : List Rat) (n : Nat) :
    positiveSum (weights.take n) ≤ positiveSum weights := by
  have h := positiveSum_append (weights.take n) (weights.drop n)
  rw [List.take_append_drop] at h
  rw [h]
  exact le_add_of_nonneg_right (positiveSum_nonneg _)

theorem positiveSum_take_succ {weights : List Rat} {i : Nat} {w : Rat} (h : weights[i]? = some w) :
    positiveSum (weights.take (i + 1)) = positiveSum (weights.take i) + positivePart w := by
  rw [List.take_add_one, h, positiveSum_append, Option.toList_some, positiveSum_cons, positiveSum_nil,
    add_zero]

theorem positiveSum_pos_iff {weights : List Rat} : 0 < positiveSum weights ↔ ∃ w ∈ weights, 0 < w := by
  induction weights with
  | nil => simp [positiveSum_nil]
  | cons w rest ih =>
    have hrest := positiveSum_nonneg rest
    rw [positiveSum_cons, List.exists_mem_cons_iff, ← ih]
    by_cases h : 0 < w
    · rw [positivePart_of_pos h]
      exact iff_of_true (by linarith) (.inl h)
    · rw [positivePart_of_nonpos h, zero_add]
      exact (or_iff_right h).symm

theorem sumFrom_parts (weights : List Rat) : ∀ start : Rat,
    Number.sumFrom start (weights.map positivePart) = .ok (start + positiveSum weights) := by
  induction weights with
  | nil => exact fun start => congrArg Except.ok (add_zero start).symm
  | cons w rest ih =>
    intro start
    rw [positiveSum_cons, ← add_assoc]
    exact ih (start + positivePart w)

/-- The total of a draw is the sum of the weights above zero. -/
theorem sum_parts (weights : List Rat) : Number.sum (weights.map positivePart) = .ok (positiveSum weights) :=
  (sumFrom_parts weights 0).trans (congrArg Except.ok (zero_add _))

/-! ## The first position that is reached -/

/-- The first position with a weight above zero at which the weights above zero, added up so far, reach a
bar. -/
structure FirstReaching (weights : List Rat) (bar : Rat) (i : Nat) : Prop where
  positive : ∃ w, weights[i]? = some w ∧ 0 < w
  reaches : bar ≤ positiveSum (weights.take (i + 1))
  first : ∀ j < i, ∀ w, weights[j]? = some w → 0 < w → positiveSum (weights.take (j + 1)) < bar

namespace FirstReaching

variable {weights rest : List Rat} {bar higher w : Rat} {i j : Nat}

/-- Behind a weight that does not reach the bar, what is left of the bar has to be reached. -/
theorem later (hw : 0 < w → w < bar) (h : FirstReaching rest (bar - positivePart w) i) :
    FirstReaching (w :: rest) bar (i + 1) where
  positive := h.positive
  reaches := by
    have hreaches := h.reaches
    rw [List.take_succ_cons, positiveSum_cons]
    linarith
  first j hj v hv hpos := by
    rw [List.take_succ_cons, positiveSum_cons]
    cases j with
    | zero =>
      obtain rfl : w = v := by simpa using hv
      rw [List.take_zero, positiveSum_nil, positivePart_of_pos hpos, add_zero]
      exact hw hpos
    | succ j =>
      have hfirst := h.first j (by omega) v hv hpos
      linarith

/-- A higher bar is not reached earlier. -/
theorem mono (h : FirstReaching weights bar i) (h' : FirstReaching weights higher j) (hle : bar ≤ higher) :
    i ≤ j := by
  by_contra hlt
  obtain ⟨w, hw, hpos⟩ := h'.positive
  have hfirst := h.first j (by omega) w hw hpos
  have hreaches := h'.reaches
  linarith

theorem unique (h : FirstReaching weights bar i) (h' : FirstReaching weights bar j) : i = j :=
  le_antisymm (h.mono h' le_rfl) (h'.mono h le_rfl)

/-- A bar above zero is first reached at a position just if it lies above the sum before that position. -/
theorem iff_between (hbar : 0 < bar) (hw : weights[i]? = some w) (hpos : 0 < w) :
    FirstReaching weights bar i ↔
      positiveSum (weights.take i) < bar ∧ bar ≤ positiveSum (weights.take (i + 1)) := by
  constructor
  · intro h
    refine ⟨?_, h.reaches⟩
    -- weights that are not above zero add nothing, so the sum stays that of the last one that is
    have hbelow : ∀ n, n ≤ i → positiveSum (weights.take n) < bar := by
      intro n
      induction n with
      | zero => exact fun _ => hbar
      | succ n ih =>
        intro hn
        have hlt : n < weights.length := by
          have := (List.getElem?_eq_some_iff.1 hw).1
          omega
        have hv := List.getElem?_eq_getElem hlt
        by_cases hv' : 0 < weights[n]
        · exact h.first n hn _ hv hv'
        · rw [positiveSum_take_succ hv, positivePart_of_nonpos hv', add_zero]
          exact ih (by omega)
    exact hbelow i le_rfl
  · rintro ⟨hbefore, hreaches⟩
    refine ⟨⟨w, hw, hpos⟩, hreaches, fun j hj v hv hvpos => ?_⟩
    exact lt_of_le_of_lt (positiveSum_take_mono weights hj) hbefore

end FirstReaching

/-! ## The roll -/

/-- A roll that is at most the total settles, and it does so where the weights first reach it. -/
theorem settle_parts {weights : List Rat} : ∀ {roll : Rat}, roll ≤ positiveSum weights →
    0 < positiveSum weights → ∀ i, ∃ k, settle i roll (weights.map positivePart) = .ok (some (i + k)) ∧
      FirstReaching weights roll k := by
  induction weights with
  | nil => exact fun _ htotal => absurd htotal (lt_irrefl 0)
  | cons w rest ih =>
    intro roll hroll htotal i
    rw [positiveSum_cons] at hroll htotal
    rw [List.map_cons, settle]
    -- what is left of the roll behind `w` settles in the rest
    have hlater : (0 < w → w < roll) → 0 < positiveSum rest →
        ∃ k, settle (i + 1) (roll - positivePart w) (rest.map positivePart) = .ok (some (i + k)) ∧
          FirstReaching (w :: rest) roll k := by
      intro hw hrest
      have hleft : roll - positivePart w ≤ positiveSum rest := by linarith
      obtain ⟨k, hk, hreach⟩ := ih hleft hrest (i + 1)
      refine ⟨k + 1, ?_, hreach.later hw⟩
      rw [hk, Nat.add_assoc, Nat.add_comm 1 k]
    by_cases hpos : 0 < w
    · rw [positivePart_of_pos hpos] at hroll htotal hlater ⊢
      have hmost : ¬ Number.atMost w (Number.whole 0) = true :=
        mt (Rational.atMost_iff w _).1 (not_le.2 hpos)
      rw [if_neg hmost]
      show ∃ k, (if Number.atMost (roll - w) (Number.whole 0) = true then _ else _) = _ ∧ _
      split
      · next hleft =>
        have hleft : roll - w ≤ 0 := (Rational.atMost_iff _ _).1 hleft
        refine ⟨0, rfl, ⟨w, rfl, hpos⟩, ?_, fun j hj => absurd hj (Nat.not_lt_zero j)⟩
        rw [List.take_succ_cons, positiveSum_cons, positivePart_of_pos hpos, List.take_zero,
          positiveSum_nil]
        linarith
      · next hleft =>
        have hleft : ¬ roll - w ≤ 0 := mt (Rational.atMost_iff _ _).2 hleft
        exact hlater (fun _ => by linarith) (by linarith)
    · rw [positivePart_of_nonpos hpos] at hroll htotal hlater ⊢
      rw [sub_zero] at hlater
      have hmost : Number.atMost (0 : Rat) (Number.whole 0) = true := (Rational.atMost_iff _ _).2 le_rfl
      rw [if_pos hmost]
      exact hlater (fun hw => absurd hw hpos) (by linarith)

theorem mul_le_total {total r : Rat} (htotal : 0 < total) (hr : r < 1) : r * total ≤ total :=
  mul_le_of_le_one_left (le_of_lt htotal) (le_of_lt hr)

/-- One draw is made where a weight is above zero, and it settles at the first position it reaches. -/
theorem pick_firstReaching {weights : List Rat} (htotal : 0 < positiveSum weights) {draws : Feed Rat}
    (hone : draws.next.1 < 1) : ∃ i, pick weights draws = (.ok (some i), draws.skip 1) ∧
      FirstReaching weights (draws.next.1 * positiveSum weights) i := by
  obtain ⟨i, hsettle, hreach⟩ := settle_parts (mul_le_total htotal hone) htotal 0
  rw [Nat.zero_add] at hsettle
  refine ⟨i, ?_, hreach⟩
  have hmost : ¬ Number.atMost (positiveSum weights) (Number.whole 0) = true :=
    mt (Rational.atMost_iff _ _).1 (not_le.2 htotal)
  unfold pick
  dsimp only
  rw [sum_parts]
  dsimp only
  rw [if_neg hmost]
  unfold position
  show (settle 0 (draws.next.1 * positiveSum weights) (weights.map positivePart) >>= _, _) = _
  rw [hsettle]
  rfl

/-- What is selected has a weight above zero. -/
theorem Selects.weight_pos {weights : List Rat} {r : Rat} {i : Nat} (h : Selects weights r i) :
    ∃ w, weights[i]? = some w ∧ 0 < w := by
  rcases hpick : pick weights (.always r) with ⟨result, rest⟩
  have hresult : result = .ok (some i) := (congrArg Prod.fst hpick).symm.trans h
  subst hresult
  obtain ⟨-, hnone, -⟩ | ⟨-, -, j, hj, -, w, hw, hpos⟩ :=
    pick_eq_ok (fun v _ => Rational.isNumber v) hpick
  · cases hnone
  · cases hj
    exact ⟨w, hw, of_decide_eq_true hpos⟩

theorem selects_iff_firstReaching {weights : List Rat} (htotal : 0 < positiveSum weights) {r : Rat}
    (hone : r < 1) {i : Nat} :
    Selects weights r i ↔ FirstReaching weights (r * positiveSum weights) i := by
  have hdraw : (Feed.always r).next.1 < 1 := hone
  obtain ⟨j, hpick, hreach⟩ := pick_firstReaching htotal hdraw
  have hselects : Selects weights r j := congrArg Prod.fst hpick
  constructor
  · intro hi
    rwa [hi.unique hselects]
  · intro hi
    rwa [hi.unique hreach]

/-! ## Proportion -/

/-- Entries are drawn in proportion to weights. -/
structure Proportional {β : Type} (weights : List Rat) (entries : List β) : Prop where
  /-- Nothing is drawn, and no draw is made, just if no weight is above zero. -/
  nothing : ∀ draws, pick weights draws = (.ok none, draws) ↔ ∀ w ∈ weights, w ≤ 0
  /-- Else one draw is made, and it selects the entry where the weights first reach it. -/
  drawn : (∃ w ∈ weights, 0 < w) → ∀ draws : Feed Rat, 0 ≤ draws.next.1 → draws.next.1 < 1 →
    ∃ i entry, pick weights draws = (.ok (some i), draws.skip 1) ∧ entries[i]? = some entry ∧
      FirstReaching weights (draws.next.1 * positiveSum weights) i
  /-- What has no weight above zero is never selected. -/
  positive : ∀ r i, Selects weights r i → ∃ w, weights[i]? = some w ∧ 0 < w
  /-- A larger draw selects no earlier entry. -/
  monotone : ∀ r r' i j, 0 ≤ r → r ≤ r' → r' < 1 → Selects weights r i → Selects weights r' j → i ≤ j
  /-- The draws that select an entry are those of an interval as long as its part of the total. -/
  interval : ∀ i w, weights[i]? = some w → 0 < w → ∃ low high, high - low = w / positiveSum weights ∧
    0 ≤ low ∧ high ≤ 1 ∧ ∀ r, 0 < r → r < 1 → (Selects weights r i ↔ low < r ∧ r ≤ high)
  /-- The roll is used up, so no entry is selected for want of another. -/
  settles : (∃ w ∈ weights, 0 < w) → ∀ r, 0 ≤ r → r < 1 →
    ∃ i, settle 0 (r * positiveSum weights) (weights.map positivePart) = .ok (some i)

/-- Draws from exact weights are in proportion to them, whatever their signs. -/
theorem pick_proportional {β : Type} {weights : List Rat} {entries : List β}
    (hlength : entries.length = weights.length) : Proportional weights entries where
  nothing draws := by
    constructor
    · intro hpick w hw
      obtain ⟨hnone, -, -⟩ | ⟨-, -, i, hi, -⟩ :=
        pick_eq_ok (fun v _ => Rational.isNumber v) hpick
      · exact not_lt.1 (mt decide_eq_true (List.any_eq_false.1 hnone w hw))
      · cases hi
    · intro h
      refine pick_nothing (fun v _ => Rational.isNumber v) (sum_parts weights) ?_ draws
      exact List.any_eq_false.2 fun w hw => mt of_decide_eq_true (not_lt.2 (h w hw))
  drawn hsome draws hzero hone := by
    obtain ⟨i, hpick, hreach⟩ := pick_firstReaching (positiveSum_pos_iff.2 hsome) hone
    obtain ⟨w, hw, -⟩ := hreach.positive
    have hi : i < entries.length := hlength ▸ (List.getElem?_eq_some_iff.1 hw).1
    exact ⟨i, entries[i], hpick, List.getElem?_eq_getElem hi, hreach⟩
  positive _ _ hselects := hselects.weight_pos
  monotone r r' i j hzero hle hone hi hj := by
    obtain ⟨w, hw, hpos⟩ := hi.weight_pos
    have htotal := positiveSum_pos_iff.2 ⟨w, List.mem_of_getElem? hw, hpos⟩
    have hi := (selects_iff_firstReaching htotal (lt_of_le_of_lt hle hone)).1 hi
    have hj := (selects_iff_firstReaching htotal hone).1 hj
    exact hi.mono hj (mul_le_mul_of_nonneg_right hle (le_of_lt htotal))
  interval i w hw hpos := by
    have htotal := positiveSum_pos_iff.2 ⟨w, List.mem_of_getElem? hw, hpos⟩
    have hstep := positiveSum_take_succ hw
    rw [positivePart_of_pos hpos] at hstep
    refine ⟨positiveSum (weights.take i) / positiveSum weights,
      positiveSum (weights.take (i + 1)) / positiveSum weights, ?_, ?_, ?_, fun r hzero hone => ?_⟩
    · rw [← sub_div, hstep, add_sub_cancel_left]
    · exact div_nonneg (positiveSum_nonneg _) (le_of_lt htotal)
    · exact (div_le_one htotal).2 (positiveSum_take_le weights _)
    · rw [selects_iff_firstReaching htotal hone, FirstReaching.iff_between (mul_pos hzero htotal) hw hpos,
        div_lt_iff₀ htotal, le_div_iff₀ htotal]
  settles hsome r hzero hone := by
    have htotal := positiveSum_pos_iff.2 hsome
    obtain ⟨i, hsettle, -⟩ := settle_parts (mul_le_total htotal hone) htotal 0
    exact ⟨_, hsettle⟩

/-- Of the weights 0, 1/2, -3 and 3/2 the draw 1/4 just uses up the second one. -/
theorem pick_proportional_fourths :
    Proportional [0, 1/2, -3, 3/2] ["none", "rare", "never", "common"] ∧
      Selects ([0, 1/2, -3, 3/2] : List Rat) (1/4) 1 ∧ Selects ([0, 1/2, -3, 3/2] : List Rat) (3/10) 3 :=
  ⟨pick_proportional rfl, by unfold Selects; decide +kernel, by unfold Selects; decide +kernel⟩

end Draw

end StoryRules
