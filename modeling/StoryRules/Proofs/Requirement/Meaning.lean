import StoryRules.Proofs.Amount.Values
import StoryRules.Proofs.Requirement
import StoryRules.Requirement.Evaluate

/-!
# What requirements mean

A requirement is met or not, whatever the order in which it is looked at: a conjunction if all of its parts are,
a disjunction if one of them is, a negation if its part is not.  Evaluating it gives just that, and so the parts of
conjunctions and disjunctions can be arranged in any way.

    (r.evaluate s).1 = true ↔ r.IsMet s                            (evaluate_isMet)
    Rearranged p q → (p.evaluate s).1 = (q.evaluate s).1           (Rearranged.evaluate_eq)
-/

namespace StoryRules

/-! ## Conditions -/

namespace Condition

/-- What makes a condition true of a state.  What a state does not hold counts as zero or as false, and nothing
makes a condition true that misses a part. -/
inductive IsMet (s : State Amount) : Condition Amount → Prop
  | hasItem {item : String} {n : Int} :
    n ≤ (s.inventory.get? item).getD 0 → IsMet s (.hasItem (some item) (some n))
  | inventoryLt {item : String} {n : Int} :
    (s.inventory.get? item).getD 0 < n → IsMet s (.inventoryLt (some item) (some n))
  | currencyGte {currency : String} {a : Amount} :
    a ≤ (s.currencies.get? currency).getD (.int 0) → IsMet s (.currencyGte (some currency) (some a))
  | currencyLt {currency : String} {a : Amount} :
    (s.currencies.get? currency).getD (.int 0) < a → IsMet s (.currencyLt (some currency) (some a))
  | statGte {stat : String} {a : Amount} :
    a ≤ (s.stats.get? stat).getD (.int 0) → IsMet s (.statGte (some stat) (some a))
  | statBetween {stat : String} {low high : Amount} :
    low ≤ (s.stats.get? stat).getD (.int 0) → (s.stats.get? stat).getD (.int 0) ≤ high →
    IsMet s (.statBetween (some stat) (some low) (some high))
  | flagIs {flag : String} {b : Bool} :
    (s.flags.get? flag).getD false = b → IsMet s (.flagIs (some flag) (some b))
  | puzzleSolved {puzzle : String} {p : Progress Amount} :
    s.puzzles.get? puzzle = some p → p.solved = true → IsMet s (.puzzleSolved (some puzzle))
  | visitedNode {node : String} : node ∈ s.visited → IsMet s (.visitedNode (some node))

theorem isSolved_iff (s : State Amount) (puzzle : String) :
    s.isSolved puzzle = true ↔ ∃ p, s.puzzles.get? puzzle = some p ∧ p.solved = true := by
  unfold State.isSolved State.progress
  cases s.puzzles.get? puzzle <;> simp

/-- A condition without a missing part is found true if something makes it true. -/
theorem holds_iff (s : State Amount) (c : Condition Amount) : c.holds s = true ↔ c.IsMet s := by
  constructor
  · intro h
    unfold holds at h
    split at h
    · exact .hasItem (of_decide_eq_true h)
    · exact .inventoryLt (of_decide_eq_true h)
    · exact .currencyGte ((Amount.atMost_iff _ _).1 h)
    · exact .currencyLt ((Amount.less_iff _ _).1 h)
    · exact .statGte ((Amount.atMost_iff _ _).1 h)
    · obtain ⟨hlow, hhigh⟩ := (Bool.and_eq_true _ _).mp h
      exact .statBetween ((Amount.atMost_iff _ _).1 hlow) ((Amount.atMost_iff _ _).1 hhigh)
    · exact .flagIs (of_decide_eq_true h)
    · obtain ⟨p, hp, hsolved⟩ := (isSolved_iff s _).1 h
      exact .puzzleSolved hp hsolved
    · exact .visitedNode (List.contains_iff_mem.1 h)
    · cases h
  · intro h
    cases h with
    | hasItem h => exact decide_eq_true h
    | inventoryLt h => exact decide_eq_true h
    | currencyGte h => exact (Amount.atMost_iff _ _).2 h
    | currencyLt h => exact (Amount.less_iff _ _).2 h
    | statGte h => exact (Amount.atMost_iff _ _).2 h
    | statBetween hlow hhigh =>
      exact (Bool.and_eq_true _ _).mpr ⟨(Amount.atMost_iff _ _).2 hlow, (Amount.atMost_iff _ _).2 hhigh⟩
    | flagIs h => exact decide_eq_true h
    | puzzleSolved hp hsolved => exact (isSolved_iff s _).2 ⟨_, hp, hsolved⟩
    | visitedNode h => exact List.contains_iff_mem.2 h

/-- A condition with a missing part is not met. -/
theorem IsMet.complete {s : State Amount} {c : Condition Amount} (h : c.IsMet s) : c.missing = [] := by
  cases h <;> rfl

theorem test_isMet (s : State Amount) (c : Condition Amount) : (c.test s).1 = true ↔ c.IsMet s := by
  unfold test
  split
  · exact holds_iff s c
  · next hmissing => exact iff_of_false Bool.false_ne_true fun h => hmissing (by rw [h.complete]; rfl)

end Condition

namespace Requirement

/-! ## Parts in a row -/

section

variable {α : Type} [Number α] (s : State α)

/-- The warnings of parts that are evaluated one after the other for as long as their value is `go`. -/
def warningsWhile (go : Bool) : List (Requirement α) → List String
  | [] => []
  | part :: rest =>
    (part.evaluate s).2 ++ if (part.evaluate s).1 = go then warningsWhile go rest else []

theorem evaluateAll_eq (parts : List (Requirement α)) :
    evaluateAll s parts = (parts.all fun part => (part.evaluate s).1, warningsWhile s true parts) := by
  induction parts with
  | nil => rfl
  | cons part rest ih =>
    rw [evaluateAll, ih, warningsWhile, List.all_cons]
    rcases part.evaluate s with ⟨_ | _, warnings⟩
    · simp
    · rfl

theorem evaluateAny_eq (parts : List (Requirement α)) :
    evaluateAny s parts = (parts.any fun part => (part.evaluate s).1, warningsWhile s false parts) := by
  induction parts with
  | nil => rfl
  | cons part rest ih =>
    rw [evaluateAny, ih, warningsWhile, List.any_cons]
    rcases part.evaluate s with ⟨_ | _, warnings⟩
    · rfl
    · simp

end

/-! ## Expressions -/

/-- What makes an expression true of a state. -/
def IsMet (s : State Amount) : Requirement Amount → Prop
  | .allOf parts => ∀ part ∈ parts, part.IsMet s
  | .anyOf parts => ∃ part, ∃ _ : part ∈ parts, part.IsMet s
  | .not part => ¬ part.IsMet s
  | .condition c => c.IsMet s

variable {s : State Amount} {p q : Requirement Amount}

theorem isMet_anyOf {parts : List (Requirement Amount)} :
    (anyOf parts).IsMet s ↔ ∃ part ∈ parts, part.IsMet s := by
  rw [IsMet]
  simp only [exists_prop]

/-- Evaluating an expression tells whether it is met. -/
theorem evaluate_isMet (s : State Amount) (r : Requirement Amount) :
    (r.evaluate s).1 = true ↔ r.IsMet s := by
  induction r using Requirement.nested with
  | condition c =>
    rw [evaluate, IsMet]
    exact c.test_isMet s
  | not part ih =>
    rw [evaluate, IsMet, ← ih]
    simp
  | allOf parts ih =>
    rw [evaluate, evaluateAll_eq, IsMet, List.all_eq_true]
    exact forall₂_congr ih
  | anyOf parts ih =>
    rw [evaluate, evaluateAny_eq, isMet_anyOf, List.any_eq_true]
    exact exists_congr fun part => and_congr_right (ih part)

/-! ## Arrangements -/

/-- A conjunction or a disjunction. -/
inductive Joins {α : Type} : (List (Requirement α) → Requirement α) → Prop
  | allOf : Joins .allOf
  | anyOf : Joins .anyOf

/-- Two expressions differ only in how the parts of conjunctions and disjunctions are arranged, anywhere inside. -/
inductive Rearranged {α : Type} : Requirement α → Requirement α → Prop
  | refl (r : Requirement α) : Rearranged r r
  | symm {p q : Requirement α} : Rearranged p q → Rearranged q p
  | trans {p q r : Requirement α} : Rearranged p q → Rearranged q r → Rearranged p r
  /-- Parts change places. -/
  | permuted {join : List (Requirement α) → Requirement α} {ps qs : List (Requirement α)} :
    Joins join → ps.Perm qs → Rearranged (join ps) (join qs)
  /-- A part is there once more. -/
  | repeated {join : List (Requirement α) → Requirement α} {p : Requirement α}
    {ps : List (Requirement α)} : Joins join → p ∈ ps → Rearranged (join ps) (join (p :: ps))
  /-- Some parts are put into a conjunction or disjunction of their own. -/
  | grouped {join : List (Requirement α) → Requirement α} (ps qs : List (Requirement α)) :
    Joins join → Rearranged (join (ps ++ qs)) (join (join ps :: qs))
  /-- A single part stands for itself. -/
  | single {join : List (Requirement α) → Requirement α} (p : Requirement α) :
    Joins join → Rearranged p (join [p])
  | inPart {join : List (Requirement α) → Requirement α} {p q : Requirement α}
    {rest : List (Requirement α)} : Joins join → Rearranged p q →
    Rearranged (join (p :: rest)) (join (q :: rest))
  | inNot {p q : Requirement α} : Rearranged p q → Rearranged (.not p) (.not q)

/-- A conjunction or a disjunction depends on each part in the same way, whichever of the two it is. -/
theorem Joins.isMet {join : List (Requirement Amount) → Requirement Amount} (h : Joins join) :
    (∀ ps, (join ps).IsMet s ↔ ∀ p ∈ ps, p.IsMet s) ∨ ∀ ps, (join ps).IsMet s ↔ ∃ p ∈ ps, p.IsMet s := by
  cases h with
  | allOf => exact .inl fun ps => by rw [IsMet]
  | anyOf => exact .inr fun ps => isMet_anyOf

/-- Arranging parts in another way does not change what an expression means. -/
theorem Rearranged.isMet (h : Rearranged p q) : p.IsMet s ↔ q.IsMet s := by
  induction h with
  | refl r => exact Iff.rfl
  | symm _ ih => exact ih.symm
  | trans _ _ ihp ihq => exact ihp.trans ihq
  | permuted hjoin hperm =>
    rcases hjoin.isMet with h | h <;> rw [h, h] <;> simp only [hperm.mem_iff]
  | repeated hjoin hmem =>
    rcases hjoin.isMet (s := s) with h | h <;> rw [h, h]
    · rw [List.forall_mem_cons]
      exact ⟨fun hall => ⟨hall _ hmem, hall⟩, And.right⟩
    · rw [List.exists_mem_cons_iff]
      exact ⟨.inr, fun hsome => hsome.elim (fun hp => ⟨_, hmem, hp⟩) id⟩
  | grouped ps qs hjoin =>
    rcases hjoin.isMet (s := s) with h | h <;> rw [h, h]
    · rw [List.forall_mem_append, List.forall_mem_cons, h]
    · rw [List.exists_mem_cons_iff, h]
      simp only [List.mem_append, or_and_right, exists_or]
  | single p hjoin => rcases hjoin.isMet (s := s) with h | h <;> simp [h]
  | inPart hjoin _ ih =>
    rcases hjoin.isMet (s := s) with h | h <;> rw [h, h]
    · rw [List.forall_mem_cons, List.forall_mem_cons, ih]
    · rw [List.exists_mem_cons_iff, List.exists_mem_cons_iff, ih]
  | inNot _ ih => rw [IsMet, IsMet, ih]

/-- Arranging parts in another way does not change the value of an expression. -/
theorem Rearranged.evaluate_eq (h : Rearranged p q) : (p.evaluate s).1 = (q.evaluate s).1 := by
  rw [Bool.eq_iff_iff, evaluate_isMet, evaluate_isMet]
  exact h.isMet

end Requirement

end StoryRules
