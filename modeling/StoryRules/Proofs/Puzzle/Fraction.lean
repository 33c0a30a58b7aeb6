import Mathlib.Tactic.Linarith
import StoryRules.Proofs.Engine.Succeeds
import StoryRules.Proofs.Puzzle.Marks
import StoryRules.Proofs.Story.Load

/-!
# Scores as fractions

A score that is all or nothing, or that counts hits among what there was to hit, lies between nothing and one.  Only
a cloze weighs its parts, and nothing keeps its weights from being below zero.  On exact amounts its score is then a
fraction as long as neither the right blanks nor the wrong ones weigh less than nothing together.

    p.score language answer = .ok (s, lines) → (s.IsFraction ↔ ¬ p.task.Tips answer)      (score_isFraction_iff)
-/

namespace StoryRules

/-- A score between nothing and one. -/
def Score.IsFraction (s : Score Rat) : Prop := 0 ≤ s.score ∧ s.score ≤ 1

namespace Puzzle

open Score

/-! ## Counts -/

theorem isFraction_of_isWhole {s : Score Rat} (h : s.IsWhole) : s.IsFraction := by
  unfold IsFraction
  rw [h, full_exact]
  split <;> norm_num

/-- What counts hits scores a fraction, if there are not more hits than there is to hit. -/
theorem part_bounds {hits total : Nat} (hle : hits ≤ total) (correct : Bool) :
    0 ≤ (part hits total correct : Rat) ∧ (part hits total correct : Rat) ≤ 1 := by
  unfold part
  split
  · rw [full_exact]
    split <;> norm_num
  · next hne =>
    have hpos : (0 : Rat) < total := Nat.cast_pos.2 (Nat.pos_of_ne_zero hne)
    show 0 ≤ (hits : Rat) / total ∧ (hits : Rat) / total ≤ 1
    exact ⟨div_nonneg (Nat.cast_nonneg _) hpos.le, (div_le_one hpos).2 (Nat.cast_le.2 hle)⟩

theorem scoreMatching_isFraction (pairs : List (Int × Int)) (partialScoring : Bool) (answer : Datum Rat) :
    (scoreMatching pairs partialScoring answer).IsFraction := by
  cases partialScoring with
  | false => exact isFraction_of_isWhole (scoreMatching_isWhole pairs answer)
  | true =>
    unfold scoreMatching
    split
    · exact isFraction_of_isWhole (malformed_isWhole _)
    · exact part_bounds (hits_le _ _) _

theorem scoreHotspot_isFraction (areas : List (Area Rat)) (answer : Datum Rat) :
    (scoreHotspot areas answer).IsFraction := by
  unfold scoreHotspot
  split
  · exact isFraction_of_isWhole (malformed_isWhole _)
  · exact part_bounds (hits_le _ _) _

theorem scoreOrdering_isFraction (order : List Int) (partialScoring : Bool) (answer : Datum Rat) :
    (scoreOrdering order partialScoring answer).IsFraction := by
  cases partialScoring with
  | false => exact isFraction_of_isWhole (scoreOrdering_isWhole order answer)
  | true =>
    unfold scoreOrdering
    split
    · exact isFraction_of_isWhole (malformed_isWhole _)
    · next given _ =>
      split
      · exact isFraction_of_isWhole (malformed_isWhole _)
      · have hle : (given.zip order).length ≤ order.length := by
          rw [List.length_zip]
          exact Nat.min_le_right ..
        exact part_bounds (List.countP_le_length.trans hle) _

/-! ## Weights -/

/-- The weight of the blanks that are wrong. -/
def lostWeight (graded : List (Blank Rat × Bool)) : Rat :=
  (graded.map fun g => if g.2 then 0 else g.1.weight).sum

theorem totalWeight_eq (graded : List (Blank Rat × Bool)) :
    totalWeight graded = earnedWeight graded + lostWeight graded := by
  unfold totalWeight earnedWeight lostWeight
  rw [← List.sum_map_add]
  refine congrArg List.sum (List.map_congr_left fun g _ => ?_)
  cases g.2 <;> simp

/-- Blanks of which none weighs less than nothing do not do so together either, right or wrong. -/
theorem weights_nonneg {graded : List (Blank Rat × Bool)} (h : ∀ g ∈ graded, 0 ≤ g.1.weight) :
    0 ≤ earnedWeight graded ∧ 0 ≤ lostWeight graded := by
  constructor
  · refine List.sum_nonneg (List.forall_mem_map.2 fun g hg => ?_)
    split
    · exact h g hg
    · exact le_rfl
  · refine List.sum_nonneg (List.forall_mem_map.2 fun g hg => ?_)
    split
    · exact le_rfl
    · exact h g hg

/-- The part that was earned of a whole above nothing is a fraction just if neither what was earned nor what was lost
is below nothing. -/
theorem earned_div_bounds {graded : List (Blank Rat × Bool)} (htotal : 0 < totalWeight graded) :
    (0 ≤ earnedWeight graded / totalWeight graded ∧ earnedWeight graded / totalWeight graded ≤ 1) ↔
      0 ≤ earnedWeight graded ∧ 0 ≤ lostWeight graded := by
  have hsum := totalWeight_eq graded
  rw [div_le_one htotal, le_div_iff₀ htotal, zero_mul]
  exact and_congr_right fun _ => ⟨fun h => by linarith, fun h => by linarith⟩

end Puzzle

/-- Parts of an answer count, all blanks together weigh more than nothing, and yet the right ones or the wrong ones
weigh less than nothing. -/
def Task.Tips (task : Task Rat) (answer : Datum Rat) : Prop :=
  ∃ blanks shuffle fields, task = .clozeText blanks shuffle true ∧ answer = .map fields ∧
    let graded := blanks.map fun b => (b, Puzzle.fills fields b)
    0 < Puzzle.totalWeight graded ∧ (Puzzle.earnedWeight graded < 0 ∨ Puzzle.lostWeight graded < 0)

/-- The blanks that a task weighs. -/
def Task.blanks {α : Type} : Task α → List (Blank α)
  | .clozeText blanks _ _ => blanks
  | _ => []

/-- Without weights below zero nothing tips. -/
theorem Task.not_tips {task : Task Rat} (h : ∀ b ∈ task.blanks, 0 ≤ b.weight) (answer : Datum Rat) :
    ¬ task.Tips answer := by
  rintro ⟨blanks, shuffle, fields, rfl, -, -, hbelow⟩
  have hgraded : ∀ g ∈ blanks.map fun b => (b, Puzzle.fills fields b), 0 ≤ g.1.weight := List.forall_mem_map.2 h
  obtain ⟨hearned, hlost⟩ := Puzzle.weights_nonneg hgraded
  exact hbelow.elim (not_lt.2 hearned) (not_lt.2 hlost)

namespace Puzzle

open Score

theorem scoreCloze_isFraction_iff {blanks : List (Blank Rat)} {shuffle partialScoring : Bool} {answer : Datum Rat}
    {s : Score Rat} (h : scoreCloze blanks partialScoring answer = .ok s) :
    s.IsFraction ↔ ¬ (Task.clozeText blanks shuffle partialScoring).Tips answer := by
  by_cases hmap : ∃ fields, answer = .map fields
  · obtain ⟨fields, rfl⟩ := hmap
    obtain ⟨-, -, hscore⟩ := scoreCloze_exact h
    have htips : (Task.clozeText blanks shuffle partialScoring).Tips (.map fields) ↔
        let graded := blanks.map fun b => (b, fills fields b)
        (partialScoring = true ∧ 0 < totalWeight graded) ∧ (earnedWeight graded < 0 ∨ lostWeight graded < 0) := by
      constructor
      · rintro ⟨_, _, _, ⟨⟩, ⟨⟩, htotal, hbelow⟩
        exact ⟨⟨rfl, htotal⟩, hbelow⟩
      · rintro ⟨⟨rfl, htotal⟩, hbelow⟩
        exact ⟨blanks, shuffle, fields, rfl, rfl, htotal, hbelow⟩
    rw [htips]
    by_cases hparts : partialScoring = true ∧ 0 < totalWeight (blanks.map fun b => (b, fills fields b))
    · rw [if_pos hparts] at hscore
      unfold IsFraction
      rw [hscore, earned_div_bounds hparts.2]
      simp [hparts, not_or]
    · rw [if_neg hparts] at hscore
      exact iff_of_true (isFraction_of_isWhole hscore) fun htips => hparts htips.1
  · obtain ⟨message, rfl⟩ := scoreCloze_not_map (fun fields heq => hmap ⟨fields, heq⟩) h
    refine iff_of_true (isFraction_of_isWhole (malformed_isWhole message)) ?_
    rintro ⟨_, _, fields, -, rfl, -⟩
    exact hmap ⟨fields, rfl⟩

/-- What is no cloze is scored all or nothing, or by counting. -/
theorem score_isFraction {language : PatternLanguage} {p : Puzzle Rat} {answer : Datum Rat} {s : Score Rat}
    {lines : List LogLine} (hcloze : ∀ blanks shuffle partialScoring, p.task ≠ .clozeText blanks shuffle partialScoring)
    (h : p.score language answer = .ok (s, lines)) : s.IsFraction := by
  by_cases hwhole : p.task.AllOrNothing
  · exact isFraction_of_isWhole (score_isWhole hwhole h)
  · unfold Puzzle.score at h
    generalize p.task = task at h hwhole hcloze
    cases task with
    | clozeText blanks shuffle partialScoring => exact absurd rfl (hcloze _ _ _)
    | matching left right pairs shuffle partialScoring =>
      cases h
      exact scoreMatching_isFraction _ _ _
    | ordering options order partialScoring =>
      cases h
      exact scoreOrdering_isFraction _ _ _
    | hotspot areas allowMultiple =>
      cases h
      exact scoreHotspot_isFraction _ _
    | _ => exact absurd trivial hwhole

/-- A score is a fraction just if nothing tips, and so wherever no blank weighs less than nothing. -/
theorem score_isFraction_iff {language : PatternLanguage} {p : Puzzle Rat} {answer : Datum Rat} {s : Score Rat}
    {lines : List LogLine} (h : p.score language answer = .ok (s, lines)) :
    (s.IsFraction ↔ ¬ p.task.Tips answer) ∧ ((∀ b ∈ p.task.blanks, 0 ≤ b.weight) → s.IsFraction) := by
  have hiff : s.IsFraction ↔ ¬ p.task.Tips answer := by
    by_cases hcloze : ∃ blanks shuffle partialScoring, p.task = .clozeText blanks shuffle partialScoring
    · obtain ⟨blanks, shuffle, partialScoring, htask⟩ := hcloze
      rw [htask]
      exact scoreCloze_isFraction_iff (score_cloze htask h)
    · refine iff_of_true (score_isFraction (fun blanks shuffle partialScoring htask => ?_) h) ?_
      · exact hcloze ⟨blanks, shuffle, partialScoring, htask⟩
      · rintro ⟨blanks, shuffle, fields, htask, -⟩
        exact hcloze ⟨blanks, shuffle, true, htask⟩
  exact ⟨hiff, fun hblanks => hiff.2 (Task.not_tips hblanks answer)⟩

/-! ## A tablet with a misleading line -/

/-- A line that counts, and one that counts against it. -/
def tabletBlanks : List (Blank Rat) := [⟨"gap", ["deep"], [], 3⟩, ⟨"lure", ["high"], [], -1⟩]

def tablet : Puzzle Rat := { inscription with id := "tablet", task := .clozeText tabletBlanks false true }

theorem tablet_isFraction_iff : ∃ s, tablet.score Pattern.language (.map [("gap", .text "deep")]) = .ok (s, []) ∧
    (s.IsFraction ↔ ¬ tablet.task.Tips (.map [("gap", .text "deep")])) ∧
    ((∀ b ∈ tablet.task.blanks, 0 ≤ b.weight) → s.IsFraction) := by
  have hscore : ∃ s, tablet.score Pattern.language (.map [("gap", .text "deep")]) = .ok (s, []) := ⟨_, rfl⟩
  obtain ⟨s, hs⟩ := hscore
  exact ⟨s, hs, score_isFraction_iff hs⟩

end Puzzle

/-- A crypt with the tablet. -/
def Story.crypt : Story Rat where
  title := "The crypt"
  language := "en"
  version := "1"
  assets := []
  items := []
  currencies := []
  stats := []
  nodes :=
    [{ id := "crypt", part := 1, isEnding := false, title := "", text := "", media := []
       onEnter := none, puzzle := some .tablet, choices := [] }]

/-- The crypt is loaded, and whoever leaves the misleading line out gets more than full marks. -/
theorem Story.crypt_overpays :
    (Story.load Pattern.language crypt.document).1 = .ok crypt ∧ crypt.MayPlay .tablet ∧
      ∃ s, Puzzle.tablet.score Pattern.language (.map [("gap", .text "deep")]) = .ok (s, []) ∧
        s.score = 3 / 2 ∧ ¬ s.IsFraction := by
  have hvalid : crypt.Valid Pattern.language := by decide +kernel
  have hscore : ∃ s, Puzzle.tablet.score Pattern.language (.map [("gap", .text "deep")]) = .ok (s, []) ∧
      s.score = 3 / 2 := ⟨_, rfl, by decide +kernel⟩
  obtain ⟨s, hs, hpaid⟩ := hscore
  refine ⟨load_eq_ok.2 ⟨ofDocument_document crypt, hvalid⟩, ?played, s, hs, hpaid, fun hfraction => ?beyond⟩
  case played => exact ⟨_, List.mem_singleton_self _, _, rfl, .inl rfl⟩
  case beyond =>
    have hle := hfraction.2
    rw [hpaid] at hle
    norm_num at hle

end StoryRules
