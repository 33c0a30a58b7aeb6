import StoryRules.Amount

/-!
# Laws of numbers

What the rules rely on of amounts.  Whole numbers have to read back as what they were written from.
Comparisons have to be those of an order, at least on the amounts that are `exact`: an order cannot
have numbers in it that are none.

    atMost low high → atMost low (clamped low high x) ∧ atMost (clamped low high x) high
-/

namespace StoryRules

/-- Whole numbers read back. -/
class FaithfulNumber (α : Type) [Number α] : Prop where
  toWhole_whole : ∀ n, Number.toWhole (Number.whole n : α) = .ok n

/-- Scores are measured amounts, and a measured amount is kept as it is. -/
class MeasuredNumber (α : Type) [Number α] : Prop where
  measure : ∀ n, Number.toMeasure? (Number.measure n : α) = some (Number.measure n)
  div : ∀ a b : α, Number.toMeasure? (Number.div a b) = some (Number.div a b)

/-- Every amount can be written in a message. -/
class LegibleNumber (α : Type) [Number α] : Prop where
  legible : ∀ a : α, (Number.text? a).isSome = true

namespace Number

variable {α : Type} [Number α] {exact : α → Prop}

/-- An amount that can be written in a message. -/
def Legible (a : α) : Prop := (text? a).isSome = true

instance (a : α) : Decidable (Legible a) := inferInstanceAs (Decidable (_ = true))

theorem text_of_legible {a : α} (h : Legible a) : ∃ written, text a = .ok written := by
  obtain ⟨written, hwritten⟩ := Option.isSome_iff_exists.1 h
  exact ⟨written, by simp only [text, hwritten]⟩

theorem text_of_not_legible {a : α} (h : ¬ Legible a) : text a = .error .unwritable := by
  unfold Legible at h
  rw [Bool.not_eq_true, Option.isSome_eq_false_iff, Option.isNone_iff_eq_none] at h
  simp only [text, h]

/-- Among exact amounts comparisons are those of an order, and whole numbers are exact. -/
structure Ordered (exact : α → Prop) : Prop where
  whole : ∀ n, exact (Number.whole n)
  refl : ∀ a, exact a → atMost a a = true
  trans : ∀ a b c, exact a → exact b → exact c → atMost a b = true → atMost b c = true →
    atMost a c = true

/-- Sums, differences and products of exact amounts are exact and never fail, and an amount is not less
than one that it is at least as large as. -/
structure Exact (exact : α → Prop) : Prop extends Ordered exact where
  add : ∀ a b, exact a → exact b → ∃ c, Number.add a b = .ok c ∧ exact c
  sub : ∀ a b, exact a → exact b → ∃ c, Number.sub a b = .ok c ∧ exact c
  mul : ∀ a b, exact a → exact b → ∃ c, Number.mul a b = .ok c ∧ exact c
  not_less : ∀ a b, exact a → exact b → atMost a b = true → less b a = false

theorem Exact.sumFrom (arithmetic : Exact exact) {amounts : List α} (h : ∀ a ∈ amounts, exact a) :
    ∀ start, exact start → ∃ total, Number.sumFrom start amounts = .ok total ∧ exact total := by
  induction amounts with
  | nil => exact fun start hstart => ⟨start, rfl, hstart⟩
  | cons a rest ih =>
    intro start hstart
    obtain ⟨next, hnext, hexact⟩ := arithmetic.add start a hstart (h a List.mem_cons_self)
    obtain ⟨total, htotal, h⟩ := ih (fun b hb => h b (List.mem_cons_of_mem _ hb)) next hexact
    refine ⟨total, ?_, h⟩
    rw [Number.sumFrom, hnext]
    exact htotal

/-- Exact amounts have a sum. -/
theorem Exact.sum (arithmetic : Exact exact) {amounts : List α} (h : ∀ a ∈ amounts, exact a) :
    ∃ total, Number.sum amounts = .ok total ∧ exact total :=
  arithmetic.sumFrom h _ (arithmetic.whole 0)

theorem atMost_of_less {a b : α} (h : less a b = true) : atMost a b = true := by
  unfold atMost
  rw [h, Bool.true_or]

/-- The larger of two is not below the first. -/
theorem atMost_larger {a b : α} (h : atMost a a = true) : atMost a (larger a b) = true := by
  unfold larger
  split
  · next hless => exact atMost_of_less hless
  · exact h

/-- The smaller of two is not above the first. -/
theorem smaller_atMost {a b : α} (h : atMost a a = true) : atMost (smaller a b) a = true := by
  unfold smaller
  split
  · next hless => exact atMost_of_less hless
  · exact h

/-- An amount held within bounds lies within them, whatever it was. -/
theorem Ordered.within (order : Ordered exact) {low high : α} (hlow : exact low)
    (hhigh : exact high) (h : atMost low high = true) (a : α) :
    atMost low (larger low (smaller high a)) = true ∧
      atMost (larger low (smaller high a)) high = true := by
  refine ⟨atMost_larger (order.refl low hlow), ?_⟩
  unfold larger
  split
  · exact smaller_atMost (order.refl high hhigh)
  · exact h

end Number

/-! ## Running amounts -/

namespace Amount

instance : FaithfulNumber Amount := ⟨fun _ => rfl⟩

instance : MeasuredNumber Amount where
  measure _ := rfl
  div a b := by
    show (Amount.div a b).toMeasure? = some (Amount.div a b)
    unfold Amount.div
    split <;> rfl

/-- Whether an amount is a whole number that is kept as one. -/
def IsWhole (a : Amount) : Prop := ∃ n, a = .int n

instance : DecidablePred IsWhole
  | .int n => isTrue ⟨n, rfl⟩
  | .float _ => isFalse (by rintro ⟨_, ⟨⟩⟩)

theorem less_int (m n : Int) : Number.less (int m) (int n) = decide (m < n) := by
  show decide (some (compare m n) = some .lt) = _
  simp only [Option.some.injEq, Int.compare_eq_lt]

theorem same_int (m n : Int) : Number.same (int m) (int n) = decide (m = n) := by
  show decide (some (compare m n) = some .eq) = _
  simp only [Option.some.injEq, Int.compare_eq_eq]

theorem atMost_int (m n : Int) : Number.atMost (int m) (int n) = true ↔ m ≤ n := by
  unfold Number.atMost
  rw [less_int, same_int, Bool.or_eq_true, decide_eq_true_eq, decide_eq_true_eq]
  omega

theorem ordered : Number.Ordered IsWhole where
  whole n := ⟨n, rfl⟩
  refl := by
    rintro _ ⟨n, rfl⟩
    exact (atMost_int n n).2 (Int.le_refl n)
  trans := by
    rintro _ _ _ ⟨l, rfl⟩ ⟨m, rfl⟩ ⟨n, rfl⟩ hlm hmn
    rw [atMost_int] at *
    exact Int.le_trans hlm hmn

theorem exact : Number.Exact IsWhole where
  toOrdered := ordered
  add := by
    rintro _ _ ⟨m, rfl⟩ ⟨n, rfl⟩
    exact ⟨int (m + n), rfl, m + n, rfl⟩
  sub := by
    rintro _ _ ⟨m, rfl⟩ ⟨n, rfl⟩
    exact ⟨int (m - n), rfl, m - n, rfl⟩
  mul := by
    rintro _ _ ⟨m, rfl⟩ ⟨n, rfl⟩
    exact ⟨int (m * n), rfl, m * n, rfl⟩
  not_less := by
    rintro _ _ ⟨m, rfl⟩ ⟨n, rfl⟩ h
    rw [atMost_int] at h
    rw [less_int, decide_eq_false_iff_not]
    omega

end Amount

end StoryRules
