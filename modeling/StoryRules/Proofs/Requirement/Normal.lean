import StoryRules.Proofs.Requirement.Meaning

/-!
# Negations at the conditions only

Each negation can be pushed down to the conditions: the negation of a conjunction is the disjunction of the negated
parts and the other way round, and two negations cancel.  Both forms stop at the same part, so that not only the
value is the same but also what is warned of.

    r.normal.evaluate s = r.evaluate s      (normal_evaluates)
-/

namespace StoryRules.Requirement

variable {α : Type}

mutual

/-- An expression, or its negation where `sign` is false, with all negations pushed down to the conditions. -/
def pushed (sign : Bool) : Requirement α → Requirement α
  | .allOf parts => if sign then .allOf (pushedAll sign parts) else .anyOf (pushedAll sign parts)
  | .anyOf parts => if sign then .anyOf (pushedAll sign parts) else .allOf (pushedAll sign parts)
  | .not part => pushed (!sign) part
  | .condition c => if sign then .condition c else .not (.condition c)

def pushedAll (sign : Bool) : List (Requirement α) → List (Requirement α)
  | [] => []
  | part :: rest => pushed sign part :: pushedAll sign rest

end

/-- The negation normal form of an expression. -/
def normal (r : Requirement α) : Requirement α := r.pushed true

/-- Nothing but a condition is negated. -/
inductive IsNormal : Requirement α → Prop
  | condition (c : Condition α) : IsNormal (.condition c)
  | notCondition (c : Condition α) : IsNormal (.not (.condition c))
  | allOf {parts : List (Requirement α)} : (∀ part ∈ parts, IsNormal part) → IsNormal (.allOf parts)
  | anyOf {parts : List (Requirement α)} : (∀ part ∈ parts, IsNormal part) → IsNormal (.anyOf parts)

theorem pushedAll_eq_map (sign : Bool) (parts : List (Requirement α)) :
    pushedAll sign parts = parts.map (pushed sign) := by
  induction parts with
  | nil => rfl
  | cons part rest ih => rw [pushedAll, ih, List.map_cons]

theorem isNormal_pushed (r : Requirement α) (sign : Bool) : (r.pushed sign).IsNormal := by
  induction r using Requirement.nested generalizing sign with
  | condition c =>
    cases sign with
    | false => exact .notCondition c
    | true => exact .condition c
  | not part ih => exact ih (!sign)
  | allOf parts ih =>
    have hparts : ∀ part ∈ pushedAll sign parts, IsNormal part := by
      rw [pushedAll_eq_map, List.forall_mem_map]
      exact fun part hpart => ih part hpart sign
    cases sign with
    | false => exact .anyOf hparts
    | true => exact .allOf hparts
  | anyOf parts ih =>
    have hparts : ∀ part ∈ pushedAll sign parts, IsNormal part := by
      rw [pushedAll_eq_map, List.forall_mem_map]
      exact fun part hpart => ih part hpart sign
    cases sign with
    | false => exact .allOf hparts
    | true => exact .anyOf hparts

/-! ## Conditions -/

theorem conditionsOfAll_pushedAll {sign : Bool} {parts : List (Requirement α)}
    (h : ∀ part ∈ parts, (part.pushed sign).conditions = part.conditions) :
    conditionsOfAll (pushedAll sign parts) = conditionsOfAll parts := by
  induction parts with
  | nil => rfl
  | cons part rest ih =>
    obtain ⟨hpart, hrest⟩ := List.forall_mem_cons.1 h
    rw [pushedAll, conditionsOfAll, conditionsOfAll, hpart, ih hrest]

theorem conditions_pushed (r : Requirement α) (sign : Bool) : (r.pushed sign).conditions = r.conditions := by
  induction r using Requirement.nested generalizing sign with
  | condition c => cases sign <;> rfl
  | not part ih => exact ih (!sign)
  | allOf parts ih =>
    have hparts := conditionsOfAll_pushedAll fun part hpart => ih part hpart sign
    cases sign <;> exact hparts
  | anyOf parts ih =>
    have hparts := conditionsOfAll_pushedAll fun part hpart => ih part hpart sign
    cases sign <;> exact hparts

/-! ## Evaluation -/

variable [Number α] {s : State α} {sign : Bool} {parts : List (Requirement α)}

/-- Two expressions leave the same warnings, and have the same value or opposite ones. -/
def Agrees (s : State α) (sign : Bool) (p q : Requirement α) : Prop :=
  p.evaluate s = ((q.evaluate s).1 == sign, (q.evaluate s).2)

/-- Parts that are pushed down go on where the parts themselves do. -/
theorem warningsWhile_pushedAll (h : ∀ part ∈ parts, Agrees s sign (part.pushed sign) part) (go : Bool) :
    warningsWhile s (go == sign) (pushedAll sign parts) = warningsWhile s go parts := by
  induction parts with
  | nil => rfl
  | cons part rest ih =>
    obtain ⟨hpart, hrest⟩ := List.forall_mem_cons.1 h
    have hgo : ((part.evaluate s).1 == sign) = (go == sign) ↔ (part.evaluate s).1 = go := by
      cases go <;> cases sign <;> simp
    rw [pushedAll, warningsWhile, warningsWhile, hpart, ih hrest]
    simp only [hgo]

theorem all_pushedAll (h : ∀ part ∈ parts, Agrees s sign (part.pushed sign) part) :
    ((pushedAll sign parts).all fun part => (part.evaluate s).1) =
      parts.all fun part => (part.evaluate s).1 == sign := by
  rw [pushedAll_eq_map, List.all_map, Bool.eq_iff_iff, List.all_eq_true, List.all_eq_true]
  exact forall₂_congr fun part hpart => by rw [Function.comp_apply, h part hpart]

theorem any_pushedAll (h : ∀ part ∈ parts, Agrees s sign (part.pushed sign) part) :
    ((pushedAll sign parts).any fun part => (part.evaluate s).1) =
      parts.any fun part => (part.evaluate s).1 == sign := by
  rw [pushedAll_eq_map, List.any_map, Bool.eq_iff_iff, List.any_eq_true, List.any_eq_true]
  exact exists_congr fun part => and_congr_right fun hpart => by rw [Function.comp_apply, h part hpart]

/-- Pushing negations down, of an expression or of its negation, changes nothing but the sign of the value. -/
theorem agrees_pushed (s : State α) (r : Requirement α) (sign : Bool) : Agrees s sign (r.pushed sign) r := by
  unfold Agrees
  induction r using Requirement.nested generalizing sign with
  | condition c => cases sign <;> simp [pushed, evaluate]
  | not part ih =>
    rw [pushed, ih (!sign), evaluate]
    cases sign <;> simp
  | allOf parts ih =>
    have hparts := fun part hpart => ih part hpart sign
    have hwarnings := warningsWhile_pushedAll hparts true
    rw [evaluate, evaluateAll_eq]
    cases sign with
    | true =>
      rw [pushed, if_pos rfl, evaluate, evaluateAll_eq, all_pushedAll hparts, ← hwarnings]
      simp
    | false =>
      rw [pushed, if_neg Bool.false_ne_true, evaluate, evaluateAny_eq, any_pushedAll hparts, ← hwarnings]
      simp [List.not_all_eq_any_not]
  | anyOf parts ih =>
    have hparts := fun part hpart => ih part hpart sign
    have hwarnings := warningsWhile_pushedAll hparts false
    rw [evaluate, evaluateAny_eq]
    cases sign with
    | true =>
      rw [pushed, if_pos rfl, evaluate, evaluateAny_eq, any_pushedAll hparts, ← hwarnings]
      simp
    | false =>
      rw [pushed, if_neg Bool.false_ne_true, evaluate, evaluateAll_eq, all_pushedAll hparts, ← hwarnings]
      simp [List.not_any_eq_all_not]

/-- The normal form negates conditions only, asks the same conditions in the same order, and evaluates to the same
value with the same warnings. -/
theorem normal_evaluates (s : State α) (r : Requirement α) :
    r.normal.IsNormal ∧ r.normal.conditions = r.conditions ∧ r.normal.evaluate s = r.evaluate s := by
  refine ⟨isNormal_pushed r true, conditions_pushed r true, ?_⟩
  rw [normal, agrees_pushed s r true, beq_true]

end StoryRules.Requirement
