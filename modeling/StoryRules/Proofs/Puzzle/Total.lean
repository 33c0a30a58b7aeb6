import StoryRules.Proofs.Amount.Clashes
import StoryRules.Proofs.Puzzle.Document
import StoryRules.Puzzle.Score

/-!
# Scoring gives a score

An answer that does not have the form that its task asks for gets a score of nothing and a message, whatever
it is.  One that has the form gets a score, unless the key jams: a number of the key that is too large for a
floating number meets the measured amounts that are scored, or the pattern meets a fault.

    (∃ score lines, p.score language answer = .ok (score, lines)) ↔
      ¬ (p.task.Takes answer ∧ p.task.Jams language)      (score_returns)
-/

namespace StoryRules

/-! ## Forms of answers -/

namespace Datum

def IsIndex (d : Datum Amount) : Prop := ∃ n, d = .num (.int n)

/-- Two whole numbers, one after the other. -/
def IsIndexPair (d : Datum Amount) : Prop :=
  ∃ kind m n, kind.isSet = false ∧ d = .seq kind [.num (.int m), .num (.int n)]

def IsText (d : Datum Amount) : Prop := ∃ s, d = .text s

def IsMap (d : Datum Amount) : Prop := ∃ fields, d = .map fields

def IsSeqOf (P : Datum Amount → Prop) (d : Datum Amount) : Prop :=
  ∃ kind items, d = .seq kind items ∧ ∀ x ∈ items, P x

/-- As many whole numbers, one after the other. -/
def IsOrder (count : Nat) (d : Datum Amount) : Prop :=
  ∃ kind items, kind.isSet = false ∧ d = .seq kind items ∧ items.length = count ∧ ∀ x ∈ items, x.IsIndex

/-- A number that can be measured, or the text of one. -/
inductive IsMeasurement : Datum Amount → Prop
  | num {a : Amount} : ¬ a.IsHuge → Number.IsNumber a → IsMeasurement (.num a)
  | text {s : String} {a : Amount} :
    Number.measureOfText? Text.digitValue? (Text.strip s) = some a → Number.IsNumber a →
    IsMeasurement (.text s)

end Datum

namespace Task

/-- An answer has the form that a task asks for. -/
def Takes : Task Amount → Datum Amount → Prop
  | .mcq .., answer => answer.IsSeqOf Datum.IsIndex
  | .text .., answer => answer.IsText
  | .regex .., answer => answer.IsText
  | .numeric .., answer => answer.IsMeasurement
  | .articleDe .., answer => answer.IsText
  | .clozeText .., answer => answer.IsMap
  | .matching .., answer => answer.IsSeqOf Datum.IsIndexPair
  | .ordering _ order _, answer => answer.IsOrder order.length
  | .hotspot .., answer => answer.IsSeqOf Datum.IsText

/-- Something in the key stops the scoring of an answer. -/
def Jams (language : PatternLanguage) : Task Amount → Prop
  | .regex pattern flags => ∃ fault, language pattern flags = .error (.fault fault)
  | .numeric key _ => key.IsHuge
  | .clozeText blanks _ _ => ∃ b ∈ blanks, b.weight.IsHuge
  | _ => False

/-- The language says that the pattern is wrong. -/
def Refused (language : PatternLanguage) : Task Amount → Prop
  | .regex pattern flags => ∃ message, language pattern flags = .error (.invalid message)
  | _ => False

end Task

/-- The ways in which scoring ends. -/
inductive Judged (takes jams refused : Prop) : Except Fault (Score Amount × List LogLine) → Prop
  | malformed {message : String} {lines : List LogLine} :
    ¬ takes → Judged takes jams refused (.ok (.malformed message, lines))
  | refused {message : String} {lines : List LogLine} :
    ¬ jams → refused → Judged takes jams refused (.ok (.malformed message, lines))
  | scored {score : Score Amount} {lines : List LogLine} :
    takes → ¬ jams → ¬ refused → score.message = none → Judged takes jams refused (.ok (score, lines))
  | jammed {fault : Fault} : takes → jams → Judged takes jams refused (.error fault)

/-! ## Reading answers -/

section

variable {β γ : Type} {f : β → Option γ}

theorem mapM_eq_some_iff {bs : List β} :
    ∀ {cs : List γ}, bs.mapM f = some cs ↔ List.Forall₂ (fun b c => f b = some c) bs cs := by
  induction bs with
  | nil => simp [eq_comm]
  | cons b rest ih =>
    intro cs
    rw [List.mapM_cons]
    constructor
    · intro h
      obtain ⟨c, hc, h⟩ := Option.bind_eq_some_iff.1 h
      obtain ⟨ds, hds, ⟨⟩⟩ := Option.bind_eq_some_iff.1 h
      exact .cons hc (ih.1 hds)
    · rintro (_ | ⟨hc, hds⟩)
      rw [hc, ih.2 hds]
      rfl

theorem exists_mapM_iff {bs : List β} :
    (∃ cs, bs.mapM f = some cs) ↔ ∀ b ∈ bs, ∃ c, f b = some c := by
  induction bs with
  | nil => exact iff_of_true ⟨[], rfl⟩ fun b hb => absurd hb List.not_mem_nil
  | cons b rest ih =>
    rw [List.forall_mem_cons, ← ih, List.mapM_cons]
    cases f b with
    | none => simp
    | some c => cases rest.mapM f <;> simp

end

namespace Datum

variable {d : Datum Amount}

theorem whole?_eq_some {n : Int} : d.whole? = some n ↔ d = .num (.int n) := by
  cases d with
  | num a => simp [whole?, Amount.whole?_eq_some]
  | _ => simp [whole?]

theorem indices?_some_iff : (∃ ns, d.indices? = some ns) ↔ d.IsSeqOf IsIndex := by
  cases d with
  | seq kind items => simp [indices?, exists_mapM_iff, whole?_eq_some, IsIndex, IsSeqOf]
  | _ => simp [indices?, IsSeqOf]

theorem orderedIndices?_eq_some {ns : List Int} : d.orderedIndices? = some ns ↔
    ∃ kind, kind.isSet = false ∧ d = .seq kind (ns.map fun n => .num (.int n)) := by
  cases d with
  | seq kind items =>
    have hitems : List.Forall₂ (fun x n => x = .num (.int n)) items ns ↔
        items = ns.map fun n => (.num (.int n) : Datum Amount) := by
      rw [← List.forall₂_map_right_iff (f := fun n : Int => (.num (.int n) : Datum Amount))]
      exact List.forall₂_eq_eq_eq ▸ Iff.rfl
    cases hkind : kind.isSet <;>
      simp [orderedIndices?, mapM_eq_some_iff, whole?_eq_some, hitems, hkind]
  | _ => simp [orderedIndices?]

theorem indexPair?_some_iff : (∃ pair, d.indexPair? = some pair) ↔ d.IsIndexPair := by
  constructor
  · rintro ⟨pair, h⟩
    unfold indexPair? at h
    split at h
    · next m n hordered =>
      obtain ⟨kind, hkind, rfl⟩ := orderedIndices?_eq_some.1 hordered
      exact ⟨kind, m, n, hkind, rfl⟩
    · cases h
  · rintro ⟨kind, m, n, hkind, rfl⟩
    have hordered : (seq kind [.num (.int m), .num (.int n)] : Datum Amount).orderedIndices? =
        some [m, n] :=
      orderedIndices?_eq_some.2 ⟨kind, hkind, rfl⟩
    refine ⟨(m, n), ?_⟩
    unfold indexPair?
    rw [hordered]

theorem indexPairs?_some_iff : (∃ pairs, d.indexPairs? = some pairs) ↔ d.IsSeqOf IsIndexPair := by
  cases d with
  | seq kind items =>
    refine (exists_mapM_iff.trans (forall₂_congr fun x _ => indexPair?_some_iff)).trans ?_
    simp [IsSeqOf]
  | _ => simp [indexPairs?, IsSeqOf]

theorem names?_some_iff : (∃ names, d.names? = some names) ↔ d.IsSeqOf IsText := by
  cases d with
  | seq kind items =>
    refine (exists_mapM_iff.trans (forall₂_congr fun x _ => ?_)).trans (b := ∀ x ∈ items, x.IsText) ?_
    · cases x <;> simp [IsText]
    · simp [IsSeqOf]
  | _ => simp [names?, IsSeqOf]

/-- A sequence is an order of as many numbers as are read from it. -/
theorem isOrder_iff {count : Nat} :
    d.IsOrder count ↔ ∃ ns, d.orderedIndices? = some ns ∧ ns.length = count := by
  constructor
  · rintro ⟨kind, items, hkind, rfl, hlength, hitems⟩
    obtain ⟨ns, hns⟩ := indices?_some_iff.2 ⟨kind, items, rfl, hitems⟩
    have hordered : (seq kind items).orderedIndices? = some ns := by
      show (if kind.isSet = true then none else items.mapM whole?) = some ns
      rw [if_neg (by rw [hkind]; exact Bool.false_ne_true)]
      exact hns
    refine ⟨ns, hordered, ?_⟩
    rw [← hlength]
    exact (mapM_eq_some_iff.1 hns).length_eq.symm
  · rintro ⟨ns, hns, hlength⟩
    obtain ⟨kind, hkind, rfl⟩ := orderedIndices?_eq_some.1 hns
    exact ⟨kind, _, hkind, rfl, by simpa using hlength, by simp [IsIndex]⟩

end Datum

namespace Puzzle

open Amount

theorem measure?_some_iff {d : Datum Amount} :
    (∃ a, measure? d = some a ∧ Number.IsNumber a) ↔ d.IsMeasurement := by
  constructor
  · rintro ⟨a, hmeasure, hnumber⟩
    cases d with
    | num b =>
      cases b with
      | float x =>
        cases hmeasure
        exact .num not_false hnumber
      | int n =>
        obtain ⟨x, hx, -⟩ := Option.map_eq_some_iff.1 hmeasure
        refine .num (fun hhuge => ?_) (isNumber_int n)
        rw [(ofIntFloat?_eq_none_iff n).2 hhuge] at hx
        cases hx
    | text s => exact .text hmeasure hnumber
    | _ => cases hmeasure
  · rintro (@⟨b, hfits, hnumber⟩ | ⟨hmeasure, hnumber⟩)
    · cases b with
      | float x => exact ⟨.float x, rfl, hnumber⟩
      | int n =>
        refine ⟨.float (Float.ofInt n), ?_, isNumber_ofInt n⟩
        have hfinite : (Float.ofInt n).isInf = false := by
          rw [← Bool.not_eq_true, isInf_ofInt]
          exact hfits
        show (ofIntFloat? n).map float = _
        simp [ofIntFloat?, hfinite]
    · exact ⟨_, hmeasure, hnumber⟩

theorem float_of_measure? {d : Datum Amount} {a : Amount} (h : measure? d = some a) :
    ∃ x, a = .float x := by
  cases d with
  | num b =>
    cases b with
    | float x =>
      cases h
      exact ⟨x, rfl⟩
    | int n =>
      obtain ⟨x, -, rfl⟩ := Option.map_eq_some_iff.1 h
      exact ⟨x, rfl⟩
  | text s =>
    change (Decimal.real? Text.digitValue? (Text.strip s)).map float = some a at h
    obtain ⟨x, -, rfl⟩ := Option.map_eq_some_iff.1 h
    exact ⟨x, rfl⟩
  | _ => cases h

/-! ## Scoring by kind -/

/-- What a score says where only the form of the answer counts. -/
inductive Formed (takes : Prop) : Score Amount → Prop
  | malformed {message : String} : ¬ takes → Formed takes (.malformed message)
  | scored {score : Score Amount} : takes → score.message = none → Formed takes score

/-- What is read from an answer is scored, and where nothing can be read the answer is malformed. -/
theorem Formed.read {β : Type} {found : Option β} {takes : Prop} {score : Score Amount}
    (htakes : (∃ b, found = some b) ↔ takes) (hnone : found = none → ∃ message, score = .malformed message)
    (hsome : ∀ b, found = some b → score.message = none) : Formed takes score := by
  cases hfound : found with
  | none =>
    obtain ⟨message, rfl⟩ := hnone hfound
    refine .malformed fun h => ?_
    obtain ⟨b, hb⟩ := htakes.2 h
    rw [hfound] at hb
    cases hb
  | some b => exact .scored (htakes.1 ⟨b, hfound⟩) (hsome b hfound)

theorem Formed.judged {takes : Prop} {score : Score Amount} (h : Formed takes score)
    (lines : List LogLine) : Judged takes False False (.ok (score, lines)) := by
  cases h with
  | malformed hnot => exact .malformed hnot
  | scored htakes hmessage => exact .scored htakes not_false not_false hmessage

section

variable (answer : Datum Amount)

theorem scoreMcq_formed (correct : List Int) :
    Formed (answer.IsSeqOf Datum.IsIndex) (scoreMcq correct answer) := by
  unfold scoreMcq
  refine .read Datum.indices?_some_iff (fun h => ?_) fun ns h => ?_
  · exact ⟨_, by rw [h]⟩
  · rw [h]
    rfl

theorem scoreMatching_formed (pairs : List (Int × Int)) (partialScoring : Bool) :
    Formed (answer.IsSeqOf Datum.IsIndexPair) (scoreMatching pairs partialScoring answer) := by
  unfold scoreMatching
  refine .read Datum.indexPairs?_some_iff (fun h => ?_) fun ns h => ?_
  · exact ⟨_, by rw [h]⟩
  · rw [h]
    cases partialScoring <;> rfl

theorem scoreHotspot_formed (areas : List (Area Amount)) :
    Formed (answer.IsSeqOf Datum.IsText) (scoreHotspot areas answer) := by
  unfold scoreHotspot
  refine .read Datum.names?_some_iff (fun h => ?_) fun ns h => ?_
  · exact ⟨_, by rw [h]⟩
  · rw [h]

theorem scoreText_formed (accepted : List String) (steps : List TextStep) :
    Formed answer.IsText (scoreText accepted steps answer) := by
  cases answer with
  | text given =>
    refine .scored ⟨given, rfl⟩ ?_
    unfold scoreText
    dsimp only
    split <;> rfl
  | _ => exact .malformed nofun

theorem scoreArticle_formed (gender : Gender) :
    Formed answer.IsText (scoreArticle gender answer) := by
  cases answer with
  | text given => exact .scored ⟨given, rfl⟩ rfl
  | _ => exact .malformed nofun

theorem scoreOrdering_formed (order : List Int) (partialScoring : Bool) :
    Formed (answer.IsOrder order.length) (scoreOrdering order partialScoring answer) := by
  rw [Datum.isOrder_iff]
  unfold scoreOrdering
  split
  · next hnone => exact .malformed fun ⟨ns, hns, _⟩ => by simp [hnone] at hns
  · next given hgiven =>
    split
    · next hlength =>
      refine .malformed ?_
      rintro ⟨ns, hns, hcount⟩
      rw [hgiven] at hns
      cases hns
      exact hlength hcount
    · next hlength =>
      refine .scored ⟨given, hgiven, not_not.1 hlength⟩ ?_
      cases partialScoring <;> rfl

theorem scoreRegex_judged (language : PatternLanguage) (id pattern flags : String) :
    Judged answer.IsText (Task.Jams language (.regex pattern flags))
      (Task.Refused language (.regex pattern flags)) (scoreRegex language id pattern flags answer) := by
  cases answer with
  | text given =>
    have hform : (Datum.text given : Datum Amount).IsText := ⟨given, rfl⟩
    unfold Task.Jams Task.Refused scoreRegex
    dsimp only
    cases language pattern flags with
    | ok test => exact .scored hform nofun nofun rfl
    | error error =>
      cases error with
      | invalid message => exact .refused nofun ⟨message, rfl⟩
      | fault fault => exact .jammed hform ⟨fault, rfl⟩
  | _ => exact .malformed nofun

theorem scoreNumeric_judged (key tolerance : Amount) :
    Judged answer.IsMeasurement key.IsHuge False
      (scoreNumeric key tolerance answer >>= fun s => .ok (s, [])) := by
  have hunread : (¬ ∃ a, measure? answer = some a ∧ Number.IsNumber a) → ¬ answer.IsMeasurement :=
    mt measure?_some_iff.2
  unfold scoreNumeric
  split
  · next hnone => exact .malformed (hunread fun ⟨a, ha, _⟩ => by simp [hnone] at ha)
  · next given hgiven =>
    split
    · next hnumber =>
      have hform := measure?_some_iff.1 ⟨given, hgiven, hnumber⟩
      obtain ⟨x, rfl⟩ := float_of_measure? hgiven
      have hreturns : (∃ difference, Number.sub (.float x) key = .ok difference) ↔ ¬ key.IsHuge :=
        combine_float_ok_iff _ _ x key
      cases hsub : Number.sub (.float x) key with
      | error fault => exact .jammed hform (hreturns.not_left.1 (by rw [hsub]; exact nofun))
      | ok difference => exact .scored hform (hreturns.1 ⟨difference, hsub⟩) not_false rfl
    · next hnot =>
      refine .malformed (hunread ?_)
      rintro ⟨a, ha, hnumber⟩
      rw [hgiven] at ha
      cases ha
      exact hnot hnumber

/-- Weights are added to measured amounts unless one of them is too large. -/
theorem addWeights_ok_iff (graded : List (Blank Amount × Bool)) : ∀ x y,
    (∃ sums, addWeights (.float x) (.float y) graded = .ok sums) ↔
      ¬ ∃ g ∈ graded, g.1.weight.IsHuge := by
  induction graded with
  | nil => exact fun x y => iff_of_true ⟨_, rfl⟩ (by simp)
  | cons g rest ih =>
    obtain ⟨b, right⟩ := g
    intro x y
    rw [List.exists_mem_cons_iff, not_or]
    by_cases hhuge : b.weight.IsHuge
    · refine iff_of_false ?_ fun h => h.1 hhuge
      rintro ⟨sums, hsums⟩
      obtain ⟨total, htotal, -⟩ := bind_eq_ok.1 hsums
      exact (combine_float_ok_iff _ _ x b.weight).1 ⟨total, htotal⟩ hhuge
    · have hadd : ∀ z, ∃ sum, Number.add (.float z) b.weight = .ok (.float sum) := by
        intro z
        obtain ⟨_, hsum, sum, rfl⟩ := combine_float (· + ·) (· + ·) z hhuge
        exact ⟨sum, hsum⟩
      obtain ⟨total, htotal⟩ := hadd x
      obtain ⟨earned, hstep⟩ : ∃ earned, addWeights (.float x) (.float y) ((b, right) :: rest) =
          addWeights (.float total) (.float earned) rest := by
        cases right with
        | false =>
          refine ⟨y, ?_⟩
          rw [addWeights, htotal]
          rfl
        | true =>
          obtain ⟨earned, hearned⟩ := hadd y
          refine ⟨earned, ?_⟩
          rw [addWeights, htotal, hearned]
          rfl
      rw [and_iff_right hhuge, hstep, ih total earned]

theorem scoreCloze_judged (blanks : List (Blank Amount)) (partialScoring : Bool) :
    Judged answer.IsMap (∃ b ∈ blanks, b.weight.IsHuge) False
      (scoreCloze blanks partialScoring answer >>= fun s => .ok (s, [])) := by
  cases answer with
  | map fields =>
    have hform : (Datum.map fields : Datum Amount).IsMap := ⟨fields, rfl⟩
    let graded := blanks.zip (blanks.map fun b => accepts b.steps b.accepted (givenFor fields b))
    have hgraded : (∃ g ∈ graded, g.1.weight.IsHuge) ↔ ∃ b ∈ blanks, b.weight.IsHuge := by
      simp [graded, ← List.map_prod_left_eq_zip]
    have hreturns := addWeights_ok_iff graded (Float.ofNat 0) (Float.ofNat 0)
    rw [hgraded] at hreturns
    unfold scoreCloze
    dsimp only
    cases hsums : addWeights (Number.measure 0) (Number.measure 0) graded with
    | error fault =>
      refine .jammed hform (hreturns.not_left.1 ?_)
      rintro ⟨sums, h⟩
      exact nomatch hsums.symm.trans h
    | ok sums => exact .scored hform (hreturns.1 ⟨sums, hsums⟩) not_false rfl
  | _ => exact .malformed nofun

end

/-- Scoring ends in one of the ways, whatever the puzzle and the answer. -/
theorem score_judged (language : PatternLanguage) (p : Puzzle Amount) (answer : Datum Amount) :
    Judged (p.task.Takes answer) (p.task.Jams language) (p.task.Refused language)
      (p.score language answer) := by
  unfold Puzzle.score
  cases p.task with
  | mcq options correct multiple shuffle => exact (scoreMcq_formed answer correct).judged []
  | text accepted steps => exact (scoreText_formed answer accepted steps).judged []
  | regex pattern flags => exact scoreRegex_judged answer language p.id pattern flags
  | numeric key tolerance => exact scoreNumeric_judged answer key tolerance
  | articleDe noun gender case => exact (scoreArticle_formed answer gender).judged []
  | clozeText blanks shuffle partialScoring => exact scoreCloze_judged answer blanks partialScoring
  | matching left right pairs shuffle partialScoring =>
    exact (scoreMatching_formed answer pairs partialScoring).judged []
  | ordering options order partialScoring =>
    exact (scoreOrdering_formed answer order partialScoring).judged []
  | hotspot areas allowMultiple => exact (scoreHotspot_formed answer areas).judged []

/-- Every answer gets a score, unless it has the form that the task asks for and the key jams.  The score has a
message just if the answer does not have the form or the pattern is wrong, and it says then that the answer is
not right and gives nothing. -/
theorem score_returns (language : PatternLanguage) (p : Puzzle Amount) (answer : Datum Amount) :
    ((∃ score lines, p.score language answer = .ok (score, lines)) ↔
      ¬ (p.task.Takes answer ∧ p.task.Jams language)) ∧
    ∀ score lines, p.score language answer = .ok (score, lines) →
      (score.message = none ↔ p.task.Takes answer ∧ ¬ p.task.Refused language) ∧
      ∀ message, score.message = some message →
        score = { correct := false, score := .float 0.0, message := some message, partials := none } := by
  have hzero : (Score.full false : Amount) = .float 0.0 := rfl
  have hjudged := score_judged language p answer
  generalize p.score language answer = result at hjudged ⊢
  cases hjudged with
  | malformed hnot =>
    refine ⟨iff_of_true ⟨_, _, rfl⟩ fun h => hnot h.1, ?_⟩
    rintro _ _ ⟨⟩
    refine ⟨iff_of_false nofun fun h => hnot h.1, ?_⟩
    rintro _ ⟨⟩
    rw [Score.malformed, hzero]
  | refused hfree hrefused =>
    refine ⟨iff_of_true ⟨_, _, rfl⟩ fun h => hfree h.2, ?_⟩
    rintro _ _ ⟨⟩
    refine ⟨iff_of_false nofun fun h => h.2 hrefused, ?_⟩
    rintro _ ⟨⟩
    rw [Score.malformed, hzero]
  | scored htakes hfree hgood hmessage =>
    refine ⟨iff_of_true ⟨_, _, rfl⟩ fun h => hfree h.2, ?_⟩
    rintro _ _ ⟨⟩
    refine ⟨iff_of_true hmessage ⟨htakes, hgood⟩, ?_⟩
    intro message h
    rw [hmessage] at h
    cases h
  | jammed htakes hjams =>
    refine ⟨iff_of_false (by rintro ⟨_, _, ⟨⟩⟩) (not_not_intro ⟨htakes, hjams⟩), ?_⟩
    rintro _ _ ⟨⟩

/-! ## Keys that jam -/

/-- A puzzle with a given task and nothing around it. -/
def bare (task : Task Amount) : Puzzle Amount where
  id := "bare"
  prompt := ""
  media := []
  timeLimit := none
  attemptsMax := none
  hints := []
  variants := []
  success := none
  failure := none
  gatesChoices := false
  dynamic := none
  task := task

/-- Whether an answer is right, or the fault that its scoring meets. -/
def verdict (p : Puzzle Amount) (answer : Datum Amount) : Except Fault Bool :=
  (p.score Pattern.language answer).map fun (score, _) => score.correct

/-- Two keys that are read from their documents jam: a depth that no floating number can hold, and a blank of
such a weight. -/
theorem depth_jams :
    let depth := bare (.numeric (.int (10 ^ 400)) (.int 0))
    let gap := bare (.clozeText [⟨"gap", ["deep"], [], .int (10 ^ 400)⟩] false true)
    (read depth.document = .ok depth ∧ depth.verdict (.whole 7) = .error .amountTooLarge) ∧
      read gap.document = .ok gap ∧
        gap.verdict (.map [("gap", .text "deep")]) = .error .amountTooLarge := by
  intro depth gap
  refine ⟨⟨read_document depth, ?_⟩, read_document gap, ?_⟩
  · decide +kernel
  · decide +kernel

end Puzzle

end StoryRules
