import StoryRules.Engine.Puzzles
import StoryRules.Proofs.Number
import StoryRules.Proofs.Step

/-!
# Scores are measured

Every score that an answer gets from the key of its puzzle is a measured amount: it is all or nothing, or
what was hit as a part of what there was.

    (Scorer.standard language).Measures      (standard_measures)
-/

namespace StoryRules

variable {α : Type} [Number α]

/-- A score is a measured amount. -/
def Score.IsMeasured (s : Score α) : Prop := Number.toMeasure? s.score = some s.score

/-- Every score that a scorer gives is measured. -/
def Scorer.Measures (scorer : Scorer α) : Prop :=
  ∀ p answer score, (scorer p answer).1 = .ok score → score.IsMeasured

variable [MeasuredNumber α]

namespace Score

theorem malformed_isMeasured (message : String) : (malformed message : Score α).IsMeasured :=
  MeasuredNumber.measure _

theorem binary_isMeasured (correct : Bool) : (binary correct : Score α).IsMeasured :=
  MeasuredNumber.measure _

theorem late_isMeasured : (late : Score α).IsMeasured := malformed_isMeasured _

theorem part_measured (hits total : Nat) (correct : Bool) :
    Number.toMeasure? (part hits total correct : α) = some (part hits total correct) := by
  unfold part
  split
  · exact MeasuredNumber.measure _
  · exact MeasuredNumber.div _ _

end Score

namespace Puzzle

open Score

theorem scoreRegex_isMeasured {language : PatternLanguage} {id pattern flags : String}
    {answer : Datum α} {score : Score α} {lines : List LogLine}
    (h : scoreRegex language id pattern flags answer = .ok (score, lines)) : score.IsMeasured := by
  unfold scoreRegex at h
  split at h
  · split at h
    · cases h
      exact binary_isMeasured _
    · cases h
      exact malformed_isMeasured _
    · cases h
  · cases h
    exact malformed_isMeasured _

theorem scoreNumeric_isMeasured {key tolerance : α} {answer : Datum α} {score : Score α}
    (h : scoreNumeric key tolerance answer = .ok score) : score.IsMeasured := by
  unfold scoreNumeric at h
  split at h
  · cases h
    exact malformed_isMeasured _
  · next given hgiven =>
    split at h
    · obtain ⟨difference, -, hscore⟩ := bind_eq_ok.1 h
      cases hscore
      exact binary_isMeasured _
    · cases h
      exact malformed_isMeasured _

theorem scoreCloze_isMeasured {blanks : List (Blank α)} {partialScoring : Bool} {answer : Datum α}
    {score : Score α} (h : scoreCloze blanks partialScoring answer = .ok score) :
    score.IsMeasured := by
  unfold scoreCloze at h
  split at h
  · obtain ⟨⟨total, earned⟩, -, hscore⟩ := bind_eq_ok.1 h
    cases hscore
    unfold IsMeasured
    dsimp only
    split
    · exact MeasuredNumber.div _ _
    · exact MeasuredNumber.measure _
  · cases h
    exact malformed_isMeasured _

theorem scoreText_isMeasured (accepted : List String) (steps : List TextStep) (answer : Datum α) :
    (scoreText accepted steps answer).IsMeasured := by
  unfold scoreText
  split
  · split <;> exact binary_isMeasured _
  · exact malformed_isMeasured _

theorem scoreMatching_isMeasured (pairs : List (Int × Int)) (partialScoring : Bool)
    (answer : Datum α) : (scoreMatching pairs partialScoring answer).IsMeasured := by
  unfold scoreMatching
  split
  · exact malformed_isMeasured _
  · dsimp only
    split
    · exact part_measured _ _ _
    · exact binary_isMeasured _

theorem scoreOrdering_isMeasured (order : List Int) (partialScoring : Bool) (answer : Datum α) :
    (scoreOrdering order partialScoring answer).IsMeasured := by
  unfold scoreOrdering
  split
  · exact malformed_isMeasured _
  · split
    · exact malformed_isMeasured _
    · dsimp only
      split
      · exact part_measured _ _ _
      · exact binary_isMeasured _

theorem score_isMeasured {language : PatternLanguage} {p : Puzzle α} {answer : Datum α}
    {score : Score α} {lines : List LogLine} (h : p.score language answer = .ok (score, lines)) :
    score.IsMeasured := by
  unfold Puzzle.score at h
  split at h
  · cases h
    unfold scoreMcq
    split
    · exact malformed_isMeasured _
    · exact binary_isMeasured _
  · cases h
    exact scoreText_isMeasured _ _ _
  · exact scoreRegex_isMeasured h
  · obtain ⟨s, hs, hscore⟩ := bind_eq_ok.1 h
    cases hscore
    exact scoreNumeric_isMeasured hs
  · cases h
    unfold scoreArticle
    split
    · exact binary_isMeasured _
    · exact malformed_isMeasured _
  · obtain ⟨s, hs, hscore⟩ := bind_eq_ok.1 h
    cases hscore
    exact scoreCloze_isMeasured hs
  · cases h
    exact scoreMatching_isMeasured _ _ _
  · cases h
    exact scoreOrdering_isMeasured _ _ _
  · cases h
    unfold scoreHotspot
    split
    · exact malformed_isMeasured _
    · exact part_measured _ _ _

end Puzzle

theorem Scorer.standard_measures (language : PatternLanguage) :
    (Scorer.standard language : Scorer α).Measures := by
  intro p answer score h
  unfold Scorer.standard at h
  split at h
  · next hscore =>
    cases h
    exact Puzzle.score_isMeasured hscore
  · cases h

end StoryRules
