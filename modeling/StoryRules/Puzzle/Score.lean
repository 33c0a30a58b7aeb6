import StoryRules.Log
import StoryRules.Patterns
import StoryRules.Puzzle
import StoryRules.Text.Digit

/-!
# Scoring answers

An answer is compared with the key of a puzzle.  An answer of the wrong form is wrong and says so;
selections are compared as sets.  A score is measured between nothing and one, in parts where the
task allows that.
-/

namespace StoryRules

structure Score (α : Type) where
  correct : Bool
  score : α
  message : Option String := none
  /-- For tasks with several blanks: which were right. -/
  partials : Option (List Bool) := none

variable {α : Type} [Number α]

namespace Score

def full (correct : Bool) : α := Number.measure (if correct then 1 else 0)

/-- An answer of the wrong form. -/
def malformed (message : String) : Score α := { correct := false, score := full false, message }

/-- All or nothing. -/
def binary (correct : Bool) : Score α := { correct, score := full correct }

/-- `hits` out of `total`; out of nothing, all or nothing. -/
def part (hits total : Nat) (correct : Bool) : α :=
  if total = 0 then full correct else Number.ratio hits total

end Score

/-! ## Forms of answers -/

namespace Datum

def whole? : Datum α → Option Int
  | .num x => Number.whole? x
  | _ => none

/-- Whole numbers in any sequence. -/
def indices? : Datum α → Option (List Int)
  | .seq _ items => items.mapM whole?
  | _ => none

/-- Whole numbers in a sequence with an order. -/
def orderedIndices? : Datum α → Option (List Int)
  | .seq kind items => if kind.isSet then none else items.mapM whole?
  | _ => none

def indexPair? (d : Datum α) : Option (Int × Int) :=
  match d.orderedIndices? with
  | some [a, b] => some (a, b)
  | _ => none

def indexPairs? : Datum α → Option (List (Int × Int))
  | .seq _ items => items.mapM indexPair?
  | _ => none

def names? : Datum α → Option (List String)
  | .seq _ items => items.mapM fun d => match d with
    | .text s => some s
    | _ => none
  | _ => none

end Datum

/-! ## Scoring by kind -/

namespace Puzzle

/-- Whether two lists have the same members. -/
def sameMembers {β : Type} [BEq β] (xs ys : List β) : Bool :=
  xs.all (ys.contains ·) && ys.all (xs.contains ·)

/-- How many members of `declared` were chosen. -/
def hits {β : Type} [BEq β] (chosen declared : List β) : Nat :=
  (declared.eraseDups.filter (chosen.contains ·)).length

def scoreMcq (correct : List Int) (answer : Datum α) : Score α :=
  match answer.indices? with
  | none => .malformed "Answer must be an array of indices"
  | some chosen => .binary (sameMembers chosen correct)

/-- Whether a text is, once both are normalised, one of those accepted. -/
def accepts (steps : List TextStep) (accepted : List String) (given : String) : Bool :=
  accepted.any fun a => normalizeText steps given = normalizeText steps a

/-- Without accepted answers any text that is not blank is right. -/
def scoreText (accepted : List String) (steps : List TextStep) : Datum α → Score α
  | .text given =>
    if accepted.isEmpty then .binary (Text.strip given ≠ "")
    else .binary (accepts steps accepted given)
  | _ => .malformed "Answer must be a string"

/-- A sticky pattern has to match at the start. -/
def scoreRegex (language : PatternLanguage) (id pattern flags : String) :
    Datum α → Except Fault (Score α × List LogLine)
  | .text given =>
    match language pattern flags with
    | .ok test =>
      .ok (.binary (if flags.contains 'y' then test.atStart given else test.anywhere given), [])
    | .error (.invalid message) =>
      .ok (.malformed ("Invalid regex pattern: " ++ message),
        [.patternInvalid id message])
    | .error (.fault fault) => .error fault
  | _ => .ok (.malformed "Answer must be a string", [])

/-- The measured amount that an answer gives. -/
def measure? : Datum α → Option α
  | .num x => Number.toMeasure? x
  | .text s => Number.measureOfText? Text.digitValue? (Text.strip s)
  | _ => none

def scoreNumeric (key tolerance : α) (answer : Datum α) : Except Fault (Score α) :=
  match measure? answer with
  | none => .ok (.malformed "Answer must be a number")
  | some given =>
    if Number.same given given then do
      let difference ← Number.sub given key
      .ok (.binary (Number.atMost (Number.abs difference) tolerance))
    else .ok (.malformed "Answer must be a number")

def scoreArticle (gender : Gender) : Datum α → Score α
  | .text given => .binary (Text.lower (Text.strip given) = gender.article)
  | _ => .malformed "Answer must be a string"

/-- What an answer says about a blank; nothing counts as the empty text. -/
def givenFor (fields : Table (Datum α)) (b : Blank α) : String :=
  match Table.get? fields b.id with
  | some (.text s) => s
  | _ => ""

/-- The weight of all blanks and of the right ones, added to what came before. -/
def addWeights (total earned : α) : List (Blank α × Bool) → Except Fault (α × α)
  | [] => .ok (total, earned)
  | (b, right) :: rest => do
    let total ← Number.add total b.weight
    let earned ← if right then Number.add earned b.weight else .ok earned
    addWeights total earned rest

def scoreCloze (blanks : List (Blank α)) (partialScoring : Bool) :
    Datum α → Except Fault (Score α)
  | .map fields => do
    let results := blanks.map fun b => accepts b.steps b.accepted (givenFor fields b)
    let correct := results.all fun right => right
    let (total, earned) ←
      addWeights (Number.measure 0) (Number.measure 0) (blanks.zip results)
    let score :=
      if partialScoring && Number.isPositive total then Number.div earned total
      else Score.full correct
    .ok { correct, score, partials := some results }
  | _ => .ok (.malformed "Answer must be an object with blank_id -> answer mappings")

def scoreMatching (pairs : List (Int × Int)) (partialScoring : Bool) (answer : Datum α) :
    Score α :=
  match answer.indexPairs? with
  | none => .malformed "Answer must be an array of [left_index, right_index] pairs"
  | some chosen =>
    let correct := sameMembers chosen pairs
    if partialScoring then
      { correct, score := Score.part (hits chosen pairs) pairs.eraseDups.length correct }
    else .binary correct

def scoreOrdering (order : List Int) (partialScoring : Bool) (answer : Datum α) : Score α :=
  match answer.orderedIndices? with
  | none => .malformed "Answer must be an array of indices"
  | some given =>
    if given.length ≠ order.length then
      .malformed ("Expected " ++ toString order.length ++ " positions, got " ++
        toString given.length)
    else
      let matched := (given.zip order).countP fun (a, b) => a = b
      let correct := matched = order.length
      if partialScoring then { correct, score := Score.part matched order.length correct }
      else .binary correct

def scoreHotspot (areas : List (Area α)) (answer : Datum α) : Score α :=
  match answer.names? with
  | none => .malformed "Answer must be an array of selected area IDs"
  | some chosen =>
    let declared := (areas.filter (·.correct)).map (·.id)
    let correct := sameMembers chosen declared
    { correct, score := Score.part (hits chosen declared) declared.eraseDups.length correct }

/-- The score of an answer, and what is logged. -/
def score (language : PatternLanguage) (p : Puzzle α) (answer : Datum α) :
    Except Fault (Score α × List LogLine) :=
  match p.task with
  | .mcq _ correct _ _ => .ok (scoreMcq correct answer, [])
  | .text accepted steps => .ok (scoreText accepted steps answer, [])
  | .regex pattern flags => scoreRegex language p.id pattern flags answer
  | .numeric key tolerance => do
    let s ← scoreNumeric key tolerance answer
    .ok (s, [])
  | .articleDe _ gender _ => .ok (scoreArticle gender answer, [])
  | .clozeText blanks _ partialScoring => do
    let s ← scoreCloze blanks partialScoring answer
    .ok (s, [])
  | .matching _ _ pairs _ partialScoring => .ok (scoreMatching pairs partialScoring answer, [])
  | .ordering _ order partialScoring => .ok (scoreOrdering order partialScoring answer, [])
  | .hotspot areas _ => .ok (scoreHotspot areas answer, [])

/-- The score of an answer to a puzzle of an unknown kind. -/
def scoreUnknown (kind : Datum α) : Score α × List LogLine :=
  (.malformed ("Unknown puzzle type: " ++ kind.display),
    [.plain .warning ("Unknown puzzle kind: " ++ kind.quoted)])

end Puzzle

end StoryRules
