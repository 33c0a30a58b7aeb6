import Mathlib.Algebra.Order.BigOperators.Group.List
import Mathlib.Algebra.Order.Field.Basic
import Mathlib.Algebra.Order.Field.Rat
import StoryRules.Proofs.Rational
import StoryRules.Proofs.Step
import StoryRules.Pattern
import StoryRules.Puzzle.Score

/-!
# Right answers get full marks

Whether an answer is right and what it scores are found in different ways: the one by comparing it with the key as
a whole, the other by counting or weighing what was hit.  On exact amounts the two agree.  A right answer scores
one, and where the parts of an answer do not count nothing else does.

    p.score language answer = .ok (s, lines) → Marked language p answer s      (score_marked)
-/

namespace StoryRules

variable {α : Type} [Number α]

/-! ## All or nothing -/

namespace Score

/-- The score follows from whether the answer is right. -/
def IsWhole (s : Score α) : Prop := s.score = full s.correct

theorem malformed_isWhole (message : String) : (malformed message : Score α).IsWhole := rfl

theorem binary_isWhole (correct : Bool) : (binary correct : Score α).IsWhole := rfl

end Score

/-- Parts of an answer do not count. -/
def Task.AllOrNothing : Task α → Prop
  | .mcq .. | .text .. | .regex .. | .numeric .. | .articleDe .. => True
  | .clozeText _ _ partialScoring => partialScoring = false
  | .matching _ _ _ _ partialScoring => partialScoring = false
  | .ordering _ _ partialScoring => partialScoring = false
  | .hotspot .. => False

namespace Puzzle

open Score

theorem scoreMcq_isWhole (correct : List Int) (answer : Datum α) : (scoreMcq correct answer).IsWhole := by
  unfold scoreMcq
  split
  · exact malformed_isWhole _
  · exact binary_isWhole _

theorem scoreText_isWhole (accepted : List String) (steps : List TextStep) (answer : Datum α) :
    (scoreText accepted steps answer).IsWhole := by
  unfold scoreText
  split
  · split <;> exact binary_isWhole _
  · exact malformed_isWhole _

theorem scoreRegex_isWhole {language : PatternLanguage} {id pattern flags : String} {answer : Datum α}
    {s : Score α} {lines : List LogLine} (h : scoreRegex language id pattern flags answer = .ok (s, lines)) :
    s.IsWhole := by
  unfold scoreRegex at h
  split at h
  · split at h <;> cases h
    · exact binary_isWhole _
    · exact malformed_isWhole _
  · cases h
    exact malformed_isWhole _

theorem scoreNumeric_isWhole {key tolerance : α} {answer : Datum α} {s : Score α}
    (h : scoreNumeric key tolerance answer = .ok s) : s.IsWhole := by
  unfold scoreNumeric at h
  split at h
  · cases h
    exact malformed_isWhole _
  · split at h
    · obtain ⟨difference, -, hscore⟩ := bind_eq_ok.1 h
      cases hscore
      exact binary_isWhole _
    · cases h
      exact malformed_isWhole _

theorem scoreArticle_isWhole (gender : Gender) (answer : Datum α) : (scoreArticle gender answer).IsWhole := by
  unfold scoreArticle
  split
  · exact binary_isWhole _
  · exact malformed_isWhole _

theorem scoreMatching_isWhole (pairs : List (Int × Int)) (answer : Datum α) :
    (scoreMatching pairs false answer).IsWhole := by
  unfold scoreMatching
  split
  · exact malformed_isWhole _
  · exact binary_isWhole _

theorem scoreOrdering_isWhole (order : List Int) (answer : Datum α) : (scoreOrdering order false answer).IsWhole := by
  unfold scoreOrdering
  split
  · exact malformed_isWhole _
  · split
    · exact malformed_isWhole _
    · exact binary_isWhole _

/-- What the score of an answer to a cloze is made of. -/
theorem scoreCloze_map {blanks : List (Blank α)} {partialScoring : Bool} {fields : Table (Datum α)} {s : Score α}
    (h : scoreCloze blanks partialScoring (.map fields) = .ok s) :
    let results := blanks.map fun b => accepts b.steps b.accepted (givenFor fields b)
    s.partials = some results ∧ s.correct = results.all (fun right => right) ∧ ∃ total earned,
      addWeights (Number.measure 0) (Number.measure 0) (blanks.zip results) = .ok (total, earned) ∧
      s.score = if partialScoring && Number.isPositive total then Number.div earned total else full s.correct := by
  obtain ⟨⟨total, earned⟩, hsums, hscore⟩ := bind_eq_ok.1 h
  cases hscore
  exact ⟨rfl, rfl, total, earned, hsums, rfl⟩

theorem scoreCloze_not_map {blanks : List (Blank α)} {partialScoring : Bool} {answer : Datum α} {s : Score α}
    (hanswer : ∀ fields, answer ≠ .map fields) (h : scoreCloze blanks partialScoring answer = .ok s) :
    ∃ message, s = .malformed message := by
  cases answer with
  | map fields => exact absurd rfl (hanswer fields)
  | _ =>
    cases h
    exact ⟨_, rfl⟩

theorem scoreCloze_isWhole {blanks : List (Blank α)} {answer : Datum α} {s : Score α}
    (h : scoreCloze blanks false answer = .ok s) : s.IsWhole := by
  cases answer with
  | map fields =>
    obtain ⟨-, -, total, earned, -, hscore⟩ := scoreCloze_map h
    exact hscore
  | _ =>
    cases h
    exact malformed_isWhole _

theorem score_isWhole {language : PatternLanguage} {p : Puzzle α} {answer : Datum α} {s : Score α}
    {lines : List LogLine} (hwhole : p.task.AllOrNothing) (h : p.score language answer = .ok (s, lines)) :
    s.IsWhole := by
  unfold Puzzle.score at h
  generalize p.task = task at h hwhole
  cases task with
  | mcq options correct multiple shuffle =>
    cases h
    exact scoreMcq_isWhole _ _
  | text accepted steps =>
    cases h
    exact scoreText_isWhole _ _ _
  | regex pattern flags => exact scoreRegex_isWhole h
  | numeric key tolerance =>
    obtain ⟨s, hs, hscore⟩ := bind_eq_ok.1 h
    cases hscore
    exact scoreNumeric_isWhole hs
  | articleDe noun gender case =>
    cases h
    exact scoreArticle_isWhole _ _
  | clozeText blanks shuffle partialScoring =>
    obtain ⟨s, hs, hscore⟩ := bind_eq_ok.1 h
    cases hscore
    obtain rfl : partialScoring = false := hwhole
    exact scoreCloze_isWhole hs
  | matching left right pairs shuffle partialScoring =>
    cases h
    obtain rfl : partialScoring = false := hwhole
    exact scoreMatching_isWhole _ _
  | ordering options order partialScoring =>
    cases h
    obtain rfl : partialScoring = false := hwhole
    exact scoreOrdering_isWhole _ _
  | hotspot areas allowMultiple => exact hwhole.elim

/-! ## Counts -/

theorem hits_le {β : Type} [BEq β] (chosen declared : List β) :
    hits chosen declared ≤ declared.eraseDups.length :=
  List.length_filter_le _ _

/-- Where both have the same members, all that was declared is chosen. -/
theorem hits_of_sameMembers {β : Type} [BEq β] [LawfulBEq β] {chosen declared : List β}
    (h : sameMembers chosen declared = true) : hits chosen declared = declared.eraseDups.length := by
  have hchosen := List.all_eq_true.1 ((Bool.and_eq_true _ _).mp h).2
  refine congrArg List.length (List.filter_eq_self.2 fun b hb => hchosen b ?_)
  exact List.mem_eraseDups.1 hb

end Puzzle

/-! ## Exact scores -/

namespace Score

theorem full_exact (correct : Bool) : (full correct : Rat) = if correct then 1 else 0 := by
  cases correct
  · exact Nat.cast_zero
  · exact Nat.cast_one

theorem full_eq_one_iff {correct : Bool} : (full correct : Rat) = 1 ↔ correct = true := by
  rw [full_exact]
  cases correct <;> simp

theorem IsWhole.eq_one {s : Score Rat} (h : s.IsWhole) : s.score = 1 ↔ s.correct = true := by
  rw [h, full_eq_one_iff]

theorem part_self (total : Nat) : (part total total true : Rat) = 1 := by
  unfold part
  split
  · exact full_eq_one_iff.2 rfl
  · next hne => exact div_self (Nat.cast_ne_zero.2 hne)

/-- Only what was hit in full scores one. -/
theorem part_eq_one {hits total : Nat} {correct : Bool} (h : (part hits total correct : Rat) = 1) :
    correct = true ∨ hits = total := by
  unfold part at h
  split at h
  · exact .inl (full_eq_one_iff.1 h)
  · next hne =>
    refine .inr ?_
    have hratio : (hits : Rat) / total = 1 := h
    rw [div_eq_one_iff_eq (Nat.cast_ne_zero.2 hne)] at hratio
    exact Nat.cast_injective hratio

end Score

namespace Puzzle

open Score

/-- A right answer scores one. -/
def InFull (s : Score Rat) : Prop := s.correct = true → s.score = 1

theorem inFull_of_isWhole {s : Score Rat} (h : s.IsWhole) : InFull s := h.eq_one.2

theorem scoreMatching_inFull (pairs : List (Int × Int)) (partialScoring : Bool) (answer : Datum Rat) :
    InFull (scoreMatching pairs partialScoring answer) := by
  cases partialScoring with
  | false => exact inFull_of_isWhole (scoreMatching_isWhole pairs answer)
  | true =>
    unfold scoreMatching
    split
    · exact inFull_of_isWhole (malformed_isWhole _)
    · next chosen _ =>
      intro hcorrect
      have hsame : sameMembers chosen pairs = true := hcorrect
      show part _ _ (sameMembers chosen pairs) = 1
      rw [hits_of_sameMembers hsame, hsame, part_self]

theorem scoreHotspot_inFull (areas : List (Area Rat)) (answer : Datum Rat) : InFull (scoreHotspot areas answer) := by
  unfold scoreHotspot
  split
  · exact inFull_of_isWhole (malformed_isWhole _)
  · next chosen _ =>
    intro hcorrect
    have hsame : sameMembers chosen ((areas.filter (·.correct)).map (·.id)) = true := hcorrect
    show part _ _ (sameMembers chosen _) = 1
    rw [hits_of_sameMembers hsame, hsame, part_self]

/-- An ordering is right just if it scores one. -/
theorem scoreOrdering_eq_one (order : List Int) (partialScoring : Bool) (answer : Datum Rat) :
    (scoreOrdering order partialScoring answer).score = 1 ↔
      (scoreOrdering order partialScoring answer).correct = true := by
  cases partialScoring with
  | false => exact (scoreOrdering_isWhole order answer).eq_one
  | true =>
    unfold scoreOrdering
    split
    · exact (malformed_isWhole _).eq_one
    · next given _ =>
      split
      · exact (malformed_isWhole _).eq_one
      · generalize List.countP _ (given.zip order) = matched
        show (part matched order.length (decide (matched = order.length)) : Rat) = 1 ↔
          decide (matched = order.length) = true
        rw [decide_eq_true_iff]
        refine ⟨fun h => (part_eq_one h).elim of_decide_eq_true fun heq => heq, ?_⟩
        rintro rfl
        rw [decide_eq_true rfl, part_self]

/-! ## Weights -/

/-- The weight of all blanks, and of those that are right. -/
def totalWeight (graded : List (Blank Rat × Bool)) : Rat := (graded.map fun g => g.1.weight).sum

def earnedWeight (graded : List (Blank Rat × Bool)) : Rat :=
  (graded.map fun g => if g.2 then g.1.weight else 0).sum

theorem addWeights_exact (graded : List (Blank Rat × Bool)) : ∀ total earned,
    addWeights total earned graded = .ok (total + totalWeight graded, earned + earnedWeight graded) := by
  induction graded with
  | nil =>
    intro total earned
    simp [addWeights, totalWeight, earnedWeight]
  | cons g rest ih =>
    obtain ⟨b, right⟩ := g
    intro total earned
    have hstep : addWeights total earned ((b, right) :: rest) =
        addWeights (total + b.weight) (earned + if right then b.weight else 0) rest := by
      cases right
      · simp [addWeights, Number.add]
        rfl
      · rfl
    rw [hstep, ih]
    simp [totalWeight, earnedWeight, add_assoc]

theorem earnedWeight_of_all {graded : List (Blank Rat × Bool)} (h : ∀ g ∈ graded, g.2 = true) :
    earnedWeight graded = totalWeight graded := by
  unfold earnedWeight totalWeight
  exact congrArg List.sum (List.map_congr_left fun g hg => if_pos (h g hg))

/-- Where all weights are above zero, a wrong blank costs something. -/
theorem earnedWeight_lt {graded : List (Blank Rat × Bool)} (hpos : ∀ g ∈ graded, 0 < g.1.weight)
    (hwrong : ∃ g ∈ graded, g.2 = false) : earnedWeight graded < totalWeight graded := by
  refine List.sum_lt_sum _ _ (fun g hg => ?_) ?_
  · split
    · exact le_rfl
    · exact (hpos g hg).le
  · obtain ⟨g, hg, hfalse⟩ := hwrong
    refine ⟨g, hg, ?_⟩
    rw [hfalse]
    exact hpos g hg

/-- Whether a blank is filled in as it should be. -/
def fills (fields : Table (Datum α)) (b : Blank α) : Bool := accepts b.steps b.accepted (givenFor fields b)

section

variable {blanks : List (Blank Rat)} {partialScoring : Bool} {fields : Table (Datum Rat)} {s : Score Rat}

/-- The score of a cloze is the part of the weight that was earned. -/
theorem scoreCloze_exact (h : scoreCloze blanks partialScoring (.map fields) = .ok s) :
    let graded := blanks.map fun b => (b, fills fields b)
    s.partials = some (blanks.map (fills fields)) ∧ (s.correct = true ↔ ∀ g ∈ graded, g.2 = true) ∧
      s.score = if partialScoring = true ∧ 0 < totalWeight graded then earnedWeight graded / totalWeight graded
        else full s.correct := by
  intro graded
  obtain ⟨hpartials, hcorrect, total, earned, hsums, hscore⟩ := scoreCloze_map h
  have hzero : (Number.measure 0 : Rat) = 0 := Nat.cast_zero
  have hgraded : blanks.zip (blanks.map fun b => accepts b.steps b.accepted (givenFor fields b)) = graded :=
    List.map_prod_left_eq_zip.symm
  rw [hgraded, addWeights_exact, hzero, zero_add, zero_add] at hsums
  cases hsums
  refine ⟨hpartials, ?_, ?_⟩
  · rw [hcorrect, List.all_map, List.all_eq_true, List.forall_mem_map]
    rfl
  · have hpositive : (partialScoring && Number.isPositive (totalWeight graded)) = true ↔
        partialScoring = true ∧ 0 < totalWeight graded := by
      have hless : Number.isPositive (totalWeight graded) = decide (((0 : Int) : Rat) < totalWeight graded) := rfl
      rw [Bool.and_eq_true, hless, decide_eq_true_iff, Int.cast_zero]
    rw [hscore]
    simp only [hpositive]
    rfl

theorem scoreCloze_inFull {answer : Datum Rat} (h : scoreCloze blanks partialScoring answer = .ok s) : InFull s := by
  by_cases hmap : ∃ fields, answer = .map fields
  · obtain ⟨fields, rfl⟩ := hmap
    obtain ⟨-, hcorrect, hscore⟩ := scoreCloze_exact h
    intro hright
    rw [hscore]
    split
    · next hpos => rw [earnedWeight_of_all (hcorrect.1 hright), div_self hpos.2.ne']
    · exact full_eq_one_iff.2 hright
  · obtain ⟨message, rfl⟩ := scoreCloze_not_map (fun fields heq => hmap ⟨fields, heq⟩) h
    exact inFull_of_isWhole (malformed_isWhole message)

/-- Where all weights are above zero, only a right answer scores one. -/
theorem scoreCloze_correct {answer : Datum Rat} (hpos : ∀ b ∈ blanks, 0 < b.weight)
    (h : scoreCloze blanks partialScoring answer = .ok s) (hone : s.score = 1) : s.correct = true := by
  by_cases hmap : ∃ fields, answer = .map fields
  · obtain ⟨fields, rfl⟩ := hmap
    obtain ⟨-, hcorrect, hscore⟩ := scoreCloze_exact h
    rw [hscore] at hone
    split at hone
    · next htotal =>
      rw [hcorrect]
      by_contra hwrong
      refine absurd ((div_eq_one_iff_eq htotal.2.ne').1 hone) (earnedWeight_lt ?_ ?_).ne
      · rw [List.forall_mem_map]
        exact hpos
      · simpa using hwrong
    · exact full_eq_one_iff.1 hone
  · obtain ⟨message, rfl⟩ := scoreCloze_not_map (fun fields heq => hmap ⟨fields, heq⟩) h
    exact (malformed_isWhole message).eq_one.1 hone

end

/-! ## The whole -/

/-- What the score of an answer to a cloze with the given blanks says. -/
structure ClozeMarked (score : Datum Rat → Score Rat → Prop) (blanks : List (Blank Rat)) (answer : Datum Rat)
    (s : Score Rat) : Prop where
  /-- An answer that names blanks is judged blank by blank. -/
  judged : ∀ fields, answer = .map fields → ∃ results, s.partials = some results ∧
    results.length = blanks.length ∧ (s.correct = true ↔ ∀ right ∈ results, right = true)
  /-- What is found of a blank depends on nothing but what the answer has under its name. -/
  apart : ∀ (fields fields' : Table (Datum Rat)) (s' : Score Rat), answer = .map fields → score (.map fields') s' →
    ∀ (i : Nat) (b : Blank Rat), blanks[i]? = some b → fields.get? b.id = fields'.get? b.id →
      (s.partials.bind fun results => results[i]?) = s'.partials.bind fun results => results[i]?
  /-- An answer of any other form is not judged, and wrong. -/
  unjudged : (∀ fields, answer ≠ .map fields) → s.partials = none ∧ s.correct = false
  /-- Where all weights are above zero, only a right answer scores one. -/
  earned : (∀ b ∈ blanks, 0 < b.weight) → s.score = 1 → s.correct = true

/-- What the score of an answer to a puzzle says. -/
structure Marked (language : PatternLanguage) (p : Puzzle Rat) (answer : Datum Rat) (s : Score Rat) : Prop where
  /-- A right answer scores one. -/
  full : s.correct = true → s.score = 1
  /-- Where parts of an answer do not count, any other scores nothing. -/
  whole : p.task.AllOrNothing → s.score = if s.correct then 1 else 0
  cloze : ∀ blanks shuffle partialScoring, p.task = .clozeText blanks shuffle partialScoring →
    ClozeMarked (fun answer s => ∃ lines, p.score language answer = .ok (s, lines)) blanks answer s
  /-- An ordering that scores one is right. -/
  ordering : ∀ options order partialScoring, p.task = .ordering options order partialScoring →
    s.score = 1 → s.correct = true

theorem score_inFull {language : PatternLanguage} {p : Puzzle Rat} {answer : Datum Rat} {s : Score Rat}
    {lines : List LogLine} (h : p.score language answer = .ok (s, lines)) : InFull s := by
  by_cases hwhole : p.task.AllOrNothing
  · exact inFull_of_isWhole (score_isWhole hwhole h)
  · unfold Puzzle.score at h
    generalize p.task = task at h hwhole
    cases task with
    | clozeText blanks shuffle partialScoring =>
      obtain ⟨s, hs, hscore⟩ := bind_eq_ok.1 h
      cases hscore
      exact scoreCloze_inFull hs
    | matching left right pairs shuffle partialScoring =>
      cases h
      exact scoreMatching_inFull _ _ _
    | ordering options order partialScoring =>
      cases h
      exact (scoreOrdering_eq_one _ _ _).2
    | hotspot areas allowMultiple =>
      cases h
      exact scoreHotspot_inFull _ _
    | _ => exact absurd trivial hwhole

/-- The score of a cloze comes from its blanks. -/
theorem score_cloze {language : PatternLanguage} {p : Puzzle α} {blanks : List (Blank α)}
    {shuffle partialScoring : Bool} (htask : p.task = .clozeText blanks shuffle partialScoring) {answer : Datum α}
    {s : Score α} {lines : List LogLine} (h : p.score language answer = .ok (s, lines)) :
    scoreCloze blanks partialScoring answer = .ok s := by
  unfold Puzzle.score at h
  rw [htask] at h
  obtain ⟨s, hs, hscore⟩ := bind_eq_ok.1 h
  cases hscore
  exact hs

/-- Whether an answer is right agrees with what it scores. -/
theorem score_marked {language : PatternLanguage} {p : Puzzle Rat} {answer : Datum Rat} {s : Score Rat}
    {lines : List LogLine} (h : p.score language answer = .ok (s, lines)) : Marked language p answer s where
  full := score_inFull h
  whole hwhole := (score_isWhole hwhole h).trans (full_exact s.correct)
  cloze blanks shuffle partialScoring htask := by
    have hs := score_cloze htask h
    exact {
      judged := by
        rintro fields rfl
        obtain ⟨hpartials, hcorrect, -⟩ := scoreCloze_exact hs
        refine ⟨_, hpartials, List.length_map _, ?_⟩
        rw [hcorrect, List.forall_mem_map, List.forall_mem_map]
      apart := by
        rintro fields fields' s' rfl ⟨lines', h'⟩ i b hb hsame
        have hfills : fills fields b = fills fields' b := by
          unfold fills givenFor
          rw [hsame]
        rw [(scoreCloze_exact hs).1, (scoreCloze_exact (score_cloze htask h')).1]
        simp [hb, hfills]
      unjudged := by
        intro hother
        obtain ⟨message, rfl⟩ := scoreCloze_not_map hother hs
        exact ⟨rfl, rfl⟩
      earned := fun hpos => scoreCloze_correct hpos hs }
  ordering options order partialScoring htask := by
    unfold Puzzle.score at h
    rw [htask] at h
    cases h
    exact (scoreOrdering_eq_one order partialScoring answer).1

/-- Two blanks of different weights. -/
def inscriptionBlanks : List (Blank Rat) := [⟨"gap", ["deep"], [], 3⟩, ⟨"rim", ["high"], [], 1⟩]

def inscription : Puzzle Rat where
  id := "inscription"
  prompt := ""
  media := []
  timeLimit := none
  attemptsMax := none
  hints := []
  variants := []
  success := none
  failure := none
  gatesChoices := false
  dynamic := none
  task := .clozeText inscriptionBlanks false true

theorem inscription_marked : ∃ s, inscription.score Pattern.language (.map [("gap", .text "deep")]) = .ok (s, []) ∧
    s.partials = some [true, false] ∧ Marked Pattern.language inscription (.map [("gap", .text "deep")]) s :=
  ⟨_, rfl, rfl, score_marked rfl⟩

/-- An answer that names no blanks is not judged blank by blank. -/
theorem inscription_unjudged : ∃ s, inscription.score Pattern.language (.num 7) = .ok (s, []) ∧
    ¬ ∃ results, s.partials = some results ∧ results.length = inscriptionBlanks.length := by
  refine ⟨_, rfl, ?_⟩
  rintro ⟨results, h, -⟩
  cases h

end Puzzle

end StoryRules
