import StoryRules.Proofs.Nesting
import StoryRules.Proofs.Requirement.Reached

/-!
# Journals of conditions

A journal keeps the conditions that evaluation looks at, each with its place, in the order in which it looks at
them, the complete ones as well.  Keeping a journal changes neither the value nor the warnings, and what it keeps
stands in the expression in the same order.

    evaluate? s r = ((journal? s r).1, warningsOf (journal? s r).2)                   (evaluate?_journal?)
    (journal? s r).2.Sublist (places? r)                                              (journal?_sublist)
-/

namespace StoryRules.Requirement

open Located

variable {α : Type}

/-! ## Places -/

mutual

/-- The conditions of an expression from left to right, with their places. -/
def places : Requirement α → List (Located (Condition α))
  | .allOf parts => placesOfAll 0 parts
  | .anyOf parts => placesOfAll 0 parts
  | .not part => within 0 (places part)
  | .condition c => [([], c)]

/-- The conditions of some parts, the first of which has the number `k`. -/
def placesOfAll (k : Nat) : List (Requirement α) → List (Located (Condition α))
  | [] => []
  | part :: rest => within k (places part) ++ placesOfAll (k + 1) rest

end

/-- The conditions of an optional requirement, with their places. -/
def places? (requirement : Option (Requirement α)) : List (Located (Condition α)) :=
  match requirement with
  | none => []
  | some r => r.places

mutual

theorem map_snd_places (r : Requirement α) : r.places.map Prod.snd = r.conditions := by
  cases r with
  | allOf parts => exact map_snd_placesOfAll 0 parts
  | anyOf parts => exact map_snd_placesOfAll 0 parts
  | not part =>
    rw [places, conditions, map_snd_within]
    exact map_snd_places part
  | condition c => rfl

theorem map_snd_placesOfAll (k : Nat) (parts : List (Requirement α)) :
    (placesOfAll k parts).map Prod.snd = conditionsOfAll parts := by
  cases parts with
  | nil => rfl
  | cons part rest =>
    rw [placesOfAll, conditionsOfAll, List.map_append, map_snd_within, map_snd_places part,
      map_snd_placesOfAll (k + 1) rest]

end

/-- Without the places they are the conditions of the requirement. -/
theorem map_snd_places? (r : Option (Requirement α)) : (places? r).map Prod.snd = conditions? r := by
  cases r with
  | none => rfl
  | some r => exact map_snd_places r

/-! ## Journals -/

section

variable [Number α]

mutual

/-- The value of an expression, and a journal of its evaluation. -/
def journal (s : State α) : Requirement α → Bool × List (Located (Condition α))
  | .allOf parts => journalAll s 0 parts
  | .anyOf parts => journalAny s 0 parts
  | .not part =>
    let (value, looked) := journal s part
    (!value, within 0 looked)
  | .condition c => ((c.test s).1, [([], c)])

/-- Whether all parts are true, up to the first that is not; the first of them has the number `k`. -/
def journalAll (s : State α) (k : Nat) : List (Requirement α) → Bool × List (Located (Condition α))
  | [] => (true, [])
  | part :: rest =>
    let (value, looked) := journal s part
    if value then
      let (value, more) := journalAll s (k + 1) rest
      (value, within k looked ++ more)
    else (false, within k looked)

/-- Whether some part is true, up to the first that is; the first of them has the number `k`. -/
def journalAny (s : State α) (k : Nat) : List (Requirement α) → Bool × List (Located (Condition α))
  | [] => (false, [])
  | part :: rest =>
    let (value, looked) := journal s part
    if value then (true, within k looked)
    else
      let (value, more) := journalAny s (k + 1) rest
      (value, within k looked ++ more)

end

/-- An absent requirement is met without a look. -/
def journal? (s : State α) : Option (Requirement α) → Bool × List (Located (Condition α))
  | none => (true, [])
  | some r => r.journal s

/-! ## A journal follows the expression -/

mutual

theorem journal_sublist (s : State α) (r : Requirement α) : (journal s r).2.Sublist r.places := by
  cases r with
  | allOf parts => exact journalAll_sublist s 0 parts
  | anyOf parts => exact journalAny_sublist s 0 parts
  | not part => exact within_sublist (journal_sublist s part) 0
  | condition c => exact List.Sublist.refl _

theorem journalAll_sublist (s : State α) (k : Nat) (parts : List (Requirement α)) :
    (journalAll s k parts).2.Sublist (placesOfAll k parts) := by
  cases parts with
  | nil => exact List.Sublist.refl _
  | cons part rest =>
    have hpart := within_sublist (journal_sublist s part) k
    rw [journalAll, placesOfAll]
    rcases hlooked : journal s part with ⟨_ | _, looked⟩ <;> rw [hlooked] at hpart
    · exact hpart.trans (List.sublist_append_left _ _)
    · exact hpart.append (journalAll_sublist s (k + 1) rest)

theorem journalAny_sublist (s : State α) (k : Nat) (parts : List (Requirement α)) :
    (journalAny s k parts).2.Sublist (placesOfAll k parts) := by
  cases parts with
  | nil => exact List.Sublist.refl _
  | cons part rest =>
    have hpart := within_sublist (journal_sublist s part) k
    rw [journalAny, placesOfAll]
    rcases hlooked : journal s part with ⟨_ | _, looked⟩ <;> rw [hlooked] at hpart
    · exact hpart.append (journalAny_sublist s (k + 1) rest)
    · exact hpart.trans (List.sublist_append_left _ _)

end

/-- The conditions that are looked at stand in the requirement in this order. -/
theorem journal?_sublist (s : State α) (r : Option (Requirement α)) : (journal? s r).2.Sublist (places? r) := by
  cases r with
  | none => exact List.Sublist.refl _
  | some r => exact journal_sublist s r

end

/-! ## Keeping a journal changes nothing -/

/-- What evaluation says, read from its journal. -/
def sayOf (journal : Bool × List Stop) : Bool × List String := (journal.1, warningsOf journal.2)

theorem warningsOf_within (k : Nat) (stops : List Stop) : warningsOf (within k stops) = warningsOf stops :=
  warningsOf_descend k stops

mutual

theorem evaluate_journal (s : State Amount) (r : Requirement Amount) : evaluate s r = sayOf (journal s r) := by
  cases r with
  | allOf parts => exact evaluateAll_journalAll s 0 parts
  | anyOf parts => exact evaluateAny_journalAny s 0 parts
  | not part =>
    rw [evaluate, evaluate_journal s part]
    exact Prod.ext rfl (warningsOf_within 0 _).symm
  | condition c => exact Prod.ext rfl (walk_condition s c).warned

theorem evaluateAll_journalAll (s : State Amount) (k : Nat) (parts : List (Requirement Amount)) :
    evaluateAll s parts = sayOf (journalAll s k parts) := by
  cases parts with
  | nil => rfl
  | cons part rest =>
    rw [evaluateAll, journalAll, evaluate_journal s part, evaluateAll_journalAll s (k + 1) rest]
    rcases journal s part with ⟨_ | _, looked⟩
    · exact Prod.ext rfl (warningsOf_within k looked).symm
    · refine Prod.ext rfl ?_
      show warningsOf looked ++ warningsOf _ = warningsOf (within k looked ++ _)
      rw [warningsOf_append, warningsOf_within]

theorem evaluateAny_journalAny (s : State Amount) (k : Nat) (parts : List (Requirement Amount)) :
    evaluateAny s parts = sayOf (journalAny s k parts) := by
  cases parts with
  | nil => rfl
  | cons part rest =>
    rw [evaluateAny, journalAny, evaluate_journal s part, evaluateAny_journalAny s (k + 1) rest]
    rcases journal s part with ⟨_ | _, looked⟩
    · refine Prod.ext rfl ?_
      show warningsOf looked ++ warningsOf _ = warningsOf (within k looked ++ _)
      rw [warningsOf_append, warningsOf_within]
    · exact Prod.ext rfl (warningsOf_within k looked).symm

end

/-- A requirement that is evaluated with a journal gives the same value, and leaves the same warnings. -/
theorem evaluate?_journal? (s : State Amount) (r : Option (Requirement Amount)) :
    evaluate? s r = sayOf (journal? s r) := by
  cases r with
  | none => rfl
  | some r => exact evaluate_journal s r

/-! ## What a journal keeps -/

variable {s : State Amount} {k : Nat} {path : List Nat} {c : Condition Amount}

theorem mem_within_reaches {part : Requirement Amount} {stops : List Stop}
    (h : ∀ tail, (tail, c) ∈ stops ↔ Reaches s part tail c) :
    (path, c) ∈ within k stops ↔ ∃ tail, path = k :: tail ∧ Reaches s part tail c :=
  mem_within.trans (exists_congr fun tail => and_congr_right fun _ => h tail)

mutual

/-- A journal keeps exactly what evaluation comes to. -/
theorem mem_journal (r : Requirement Amount) (path : List Nat) :
    (path, c) ∈ (journal s r).2 ↔ Reaches s r path c := by
  cases r with
  | allOf parts => exact (mem_journalAll 0 parts path).trans reaches_allOf
  | anyOf parts => exact (mem_journalAny 0 parts path).trans reaches_anyOf
  | not part =>
    refine (mem_within_reaches (mem_journal part)).trans ⟨?_, ?_⟩
    · rintro ⟨tail, rfl, hreach⟩
      exact .not hreach
    · intro h
      cases h with
      | not hreach => exact ⟨_, rfl, hreach⟩
  | condition c => exact (walk_condition s c).mem_iff _ _

theorem mem_journalAll (k : Nat) (parts : List (Requirement Amount)) (path : List Nat) :
    (path, c) ∈ (journalAll s k parts).2 ↔ ReachesIn s true k parts path c := by
  cases parts with
  | nil => simp [journalAll, ReachesIn]
  | cons part rest =>
    rw [reachesIn_cons, ← mem_journalAll (k + 1) rest, ← mem_within_reaches (mem_journal part),
      evaluate_journal s part, journalAll]
    rcases journal s part with ⟨_ | _, looked⟩ <;> simp [sayOf]

theorem mem_journalAny (k : Nat) (parts : List (Requirement Amount)) (path : List Nat) :
    (path, c) ∈ (journalAny s k parts).2 ↔ ReachesIn s false k parts path c := by
  cases parts with
  | nil => simp [journalAny, ReachesIn]
  | cons part rest =>
    rw [reachesIn_cons, ← mem_journalAny (k + 1) rest, ← mem_within_reaches (mem_journal part),
      evaluate_journal s part, journalAny]
    rcases journal s part with ⟨_ | _, looked⟩ <;> simp [sayOf]

end

end StoryRules.Requirement
