import Mathlib
import StoryRules.Proofs.Story.Document
import StoryRules.Proofs.Story.Reports
import StoryRules.Proofs.Validation.Ends
import StoryRules.Story.Load

/-!
# Loading fails closed

A document either becomes a valid story or is refused with at least one error, just if the check of the
story that it describes can come to an end.

    FailsClosed language d ↔ ∀ s, ofDocument d = .ok s → s.Checkable language      (load_failsClosed)
-/

namespace StoryRules

namespace Story

section

variable {α : Type} [Number α]

/-- A document is refused with at least one error. -/
def Refuses {β : Type} (result : Except LoadError β) : Prop :=
  ∃ verdict, result = .error (.refused verdict) ∧ verdict.errors ≠ []

/-- Nothing but a story or a refusal with errors comes of a document, and a story only if it is
valid. -/
structure FailsClosed (language : PatternLanguage) (d : Datum α) : Prop where
  reading : (∃ s : Story α, ofDocument d = .ok s) ∨ Refuses (ofDocument d)
  checking : ∀ s, ofDocument d = .ok s → ∃ verdict, s.check language = .ok verdict
  loading : (∃ s, (load language d).1 = .ok s ∧ s.Valid language) ∨ Refuses (load language d).1

variable {language : PatternLanguage} {d : Datum α} {s : Story α}

theorem ofDocument_document [FaithfulNumber α] (s : Story α) : ofDocument s.document = .ok s := by
  unfold ofDocument
  rw [read_document]

theorem ofDocument_refuses : (∃ s : Story α, ofDocument d = .ok s) ∨ Refuses (ofDocument d) := by
  unfold ofDocument
  split
  · next s hs => exact .inl ⟨s, rfl⟩
  · next e he => exact .inr ⟨e.verdict, rfl, messages_ne_nil he⟩

theorem load_of_refuses (h : Refuses (ofDocument d)) : Refuses (load language d).1 := by
  obtain ⟨verdict, hverdict, herrors⟩ := h
  refine ⟨verdict, ?_, herrors⟩
  unfold load
  rw [hverdict]

theorem load_of_fault {fault : Fault} (hs : ofDocument d = .ok s)
    (hcheck : s.check language = .error fault) :
    load language d = (.error (.fault fault), []) := by
  unfold load
  rw [hs]
  dsimp only
  rw [hcheck]

theorem load_of_verdict {verdict : Verdict} (hs : ofDocument d = .ok s)
    (hcheck : s.check language = .ok verdict) :
    (load language d).1 = if verdict.valid then .ok s else .error (.refused verdict) := by
  unfold load
  rw [hs]
  dsimp only
  rw [hcheck]

/-- A story whose check comes to an end is taken if it is valid, and refused with its errors if it is
not. -/
theorem load_of_check {verdict : Verdict} (hs : ofDocument d = .ok s)
    (hcheck : s.check language = .ok verdict) :
    (∃ s, (load language d).1 = .ok s ∧ s.Valid language) ∨ Refuses (load language d).1 := by
  rw [load_of_verdict hs hcheck]
  split
  · next hvalid => exact .inl ⟨s, rfl, verdict, hcheck, hvalid⟩
  · next hinvalid =>
    refine .inr ⟨verdict, rfl, fun herrors => hinvalid ?_⟩
    rw [Verdict.valid, herrors]
    rfl

/-- What is loaded is the story of the document, and it is loaded just if it is valid. -/
theorem load_eq_ok : (load language d).1 = .ok s ↔ ofDocument d = .ok s ∧ s.Valid language := by
  rcases hd : ofDocument d with e | t
  · unfold load
    rw [hd]
    exact ⟨nofun, fun h => nomatch h.1⟩
  · cases hcheck : t.check language with
    | error fault =>
      have hinvalid : ¬t.Valid language := by simp [Valid, hcheck]
      rw [load_of_fault hd hcheck]
      refine ⟨nofun, ?_⟩
      rintro ⟨⟨⟩, hs⟩
      exact absurd hs hinvalid
    | ok verdict =>
      have hvalid : t.Valid language ↔ verdict.valid = true := by simp [Valid, hcheck]
      rw [load_of_verdict hd hcheck]
      split
      · next h =>
        constructor
        · rintro ⟨⟩
          exact ⟨rfl, hvalid.2 h⟩
        · rintro ⟨⟨⟩, -⟩
          rfl
      · next h =>
        refine ⟨nofun, ?_⟩
        rintro ⟨⟨⟩, hs⟩
        exact absurd (hvalid.1 hs) h

end

end Story

/-- A document is refused with at least one error or has the shape of a story.  Loading gives that story
just if it is valid, and else refuses it with at least one error or ends in a fault without a word; it fails
closed just if the story, if there is one, can be checked. -/
theorem load_failsClosed {α : Type} [Number α] [FaithfulNumber α] (language : PatternLanguage)
    (d : Datum α) :
    ((∃ s : Story α, Story.ofDocument d = .ok s) ∨ Story.Refuses (Story.ofDocument d)) ∧
      (∀ s, (Story.load language d).1 = .ok s ↔ Story.ofDocument d = .ok s ∧ s.Valid language) ∧
      ((∃ s, (Story.load language d).1 = .ok s) ∨ Story.Refuses (Story.load language d).1 ∨
        ∃ fault, Story.load language d = (.error (.fault fault), [])) ∧
      (Story.FailsClosed language d ↔
        ∀ s, Story.ofDocument d = .ok s → s.Checkable language) := by
  have hreading := Story.ofDocument_refuses (d := d)
  refine ⟨hreading, fun s => Story.load_eq_ok, ?_,
    fun h s hs => (Story.check_ends s).1 (h.checking s hs), fun h => ?_⟩
  · rcases hreading with ⟨s, hs⟩ | hrefuses
    · cases hcheck : s.check language with
      | error fault => exact .inr (.inr ⟨fault, Story.load_of_fault hs hcheck⟩)
      | ok verdict =>
        exact (Story.load_of_check hs hcheck).imp (fun ⟨t, ht, _⟩ => ⟨t, ht⟩) Or.inl
    · exact .inr (.inl (Story.load_of_refuses hrefuses))
  · have hchecking : ∀ s, Story.ofDocument d = .ok s → ∃ verdict, s.check language = .ok verdict :=
      fun s hs => (Story.check_ends s).2 (h s hs)
    refine ⟨hreading, hchecking, ?_⟩
    rcases hreading with ⟨s, hs⟩ | hrefuses
    · obtain ⟨verdict, hcheck⟩ := hchecking s hs
      exact Story.load_of_check hs hcheck
    · exact .inr (Story.load_of_refuses hrefuses)

/-! ## Documents that end in a fault -/

/-- A puzzle that asks for a word of a pattern. -/
def Puzzle.password (pattern : String) : Puzzle Amount where
  id := "password"
  prompt := ""
  media := []
  timeLimit := none
  attemptsMax := none
  hints := []
  variants := []
  success := some ⟨[], some "end"⟩
  failure := none
  gatesChoices := false
  dynamic := none
  task := .regex pattern ""

namespace Story

/-- A cave with a hoard and a password, and the end. -/
def cave (weights : List Amount) (pattern : String) : Story Amount where
  title := "The cave"
  language := "en"
  version := "1"
  assets := []
  items := []
  currencies := []
  stats := []
  nodes :=
    [{ id := "cave", part := 1, isEnding := false, title := "", text := "", media := []
       onEnter := some [.lootTable (weights.map fun w => ⟨w, []⟩)]
       puzzle := some (.password pattern)
       choices := [⟨"Leave", "end", none, [], none⟩] },
     { id := "end", part := 1, isEnding := true, title := "", text := "", media := []
       onEnter := none, puzzle := none, choices := [] }]

end Story

/-- A cave whose weights have a sum and whose password is a pattern. -/
theorem cave_failsClosed :
    let story := Story.cave [.int 1, .float 0.5] "open"
    FaithfulNumber Amount ∧ story.Checkable Pattern.language ∧
      Story.FailsClosed Pattern.language story.document := by
  intro story
  have hvalid : story.Valid Pattern.language := by decide +kernel
  obtain ⟨verdict, hverdict, -⟩ := hvalid
  have hcheckable := (Story.check_ends story).1 ⟨verdict, hverdict⟩
  obtain ⟨-, -, -, hcloses⟩ := load_failsClosed Pattern.language story.document
  refine ⟨inferInstance, hcheckable, hcloses.2 fun s hs => ?_⟩
  cases (Story.ofDocument_document story).symm.trans hs
  exact hcheckable

namespace Story

/-- The fault that the check of a story meets. -/
def checkFault? {α : Type} [Number α] (language : PatternLanguage) (s : Story α) : Option Fault :=
  match s.check language with
  | .ok _ => none
  | .error fault => some fault

/-- What ends in a fault does not fail closed. -/
theorem not_failsClosed {α : Type} [Number α] [FaithfulNumber α] {language : PatternLanguage}
    {s : Story α} {fault : Fault} (hfault : s.checkFault? language = some fault) :
    load language s.document = (.error (.fault fault), []) ∧ ¬FailsClosed language s.document := by
  have hs := ofDocument_document s
  have hcheck : s.check language = .error fault := by
    unfold checkFault? at hfault
    split at hfault
    · cases hfault
    · next f hf =>
      cases hfault
      exact hf
  refine ⟨load_of_fault hs hcheck, fun h => ?_⟩
  obtain ⟨verdict, hverdict⟩ := h.checking s hs
  cases hcheck.symm.trans hverdict

end Story

/-- Two documents end in a fault: one with weights that have no sum, a whole number too large for a
floating one next to a floating one, and one whose pattern repeats more often than any count goes. -/
theorem cave_faults :
    let hoard := Story.cave [.int (10 ^ 400), .float 0.5] "open"
    let echo := Story.cave [.int 1] "o{4294967295}"
    (Story.load Pattern.language hoard.document = (.error (.fault .amountTooLarge), []) ∧
      ¬Story.FailsClosed Pattern.language hoard.document) ∧
    Story.load Pattern.language echo.document = (.error (.fault .countTooLarge), []) ∧
      ¬Story.FailsClosed Pattern.language echo.document :=
  ⟨Story.not_failsClosed (by decide +kernel), Story.not_failsClosed (by decide +kernel)⟩

end StoryRules
