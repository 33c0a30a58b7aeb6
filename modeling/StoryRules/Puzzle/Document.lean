import StoryRules.Effect.Document
import StoryRules.Puzzle

/-!
# Puzzles in documents

A puzzle is an object tagged by `kind`.  `Puzzle.withVariant` writes a puzzle, overrides the fields
that a variant names, and reads the result again.
-/

namespace StoryRules

variable {α : Type} [Number α]

/-! ## Writing -/

namespace Puzzle

def blankDocument (b : Blank α) : Datum α :=
  .map [("id", .text b.id), ("accepted_answers", .texts b.accepted),
    ("normalize", .texts (b.steps.map TextStep.name)), ("weight", .num b.weight)]

def areaDocument (a : Area α) : Datum α :=
  .map [("id", .text a.id), ("shape", .text a.shape.name), ("coords", .list (a.coords.map .num)),
    ("correct", .bool a.correct)]

def wholes (ns : List Int) : Datum α := .list (ns.map .whole)

def taskFields : Task α → Table (Datum α)
  | .mcq options correct multiple shuffle =>
    [("options", .texts options), ("correct", wholes correct), ("multiple", .bool multiple),
     ("shuffle", .bool shuffle)]
  | .text accepted steps =>
    [("accepted_answers", .texts accepted), ("normalize", .texts (steps.map TextStep.name))]
  | .regex pattern flags => [("pattern", .text pattern), ("flags", .text flags)]
  | .numeric answer tolerance => [("answer", .num answer), ("tolerance", .num tolerance)]
  | .articleDe noun gender case =>
    [("noun", .text noun), ("gender", .text gender.article),
     ("case", Datum.ofOption (fun c => .text c.name) case)]
  | .clozeText blanks shuffle partialScoring =>
    [("blanks", .list (blanks.map blankDocument)), ("shuffle_blanks", .bool shuffle),
     ("partial_scoring", .bool partialScoring)]
  | .matching left right pairs shuffle partialScoring =>
    [("left", .texts left), ("right", .texts right),
     ("pairs", .list (pairs.map fun p => .seq .tuple [.whole p.1, .whole p.2])),
     ("shuffle", .bool shuffle), ("partial_scoring", .bool partialScoring)]
  | .ordering options order partialScoring =>
    [("options", .texts options), ("correct_order", wholes order),
     ("partial_scoring", .bool partialScoring)]
  | .hotspot areas allowMultiple =>
    [("areas", .list (areas.map areaDocument)), ("allow_multiple", .bool allowMultiple)]

def outcomeDocument (o : Outcome α) : Datum α :=
  .map [("effects", .list (Effect.documents o.effects)), ("next_id", Datum.ofOption .text o.next)]

def costDocument (c : HintCost α) : Datum α :=
  .map [("currency_id", .text c.currency), ("value", .num c.value)]

def dynamicDocument (d : Dynamic α) : Datum α :=
  .map [("if_attempts_gt", Datum.ofOption .whole d.attemptsAbove),
    ("give_hint_cost", Datum.ofOption costDocument d.hintCost),
    ("extra_time_ms", Datum.ofOption .whole d.extraTime)]

def variantDocument (v : Variant α) : Datum α :=
  .map [("weight", .num v.weight), ("override", .map v.item)]

/-- The fields of a puzzle's document. -/
def fields (p : Puzzle α) : Table (Datum α) :=
  [("id", .text p.id), ("prompt", .text p.prompt),
   ("media", .list (p.media.map MediaRef.document)),
   ("time_limit_ms", Datum.ofOption .whole p.timeLimit),
   ("attempts_max", Datum.ofOption .whole p.attemptsMax), ("hints", .texts p.hints),
   ("variants", .list (p.variants.map variantDocument)),
   ("success", Datum.ofOption outcomeDocument p.success),
   ("failure", Datum.ofOption outcomeDocument p.failure),
   ("gate_choices_until_solved", .bool p.gatesChoices),
   ("dynamic", Datum.ofOption dynamicDocument p.dynamic), ("kind", .text p.kind.name)] ++
    taskFields p.task

def document (p : Puzzle α) : Datum α := .map p.fields

end Puzzle

/-! ## Reading -/

open Reader

namespace Puzzle

def stepNames : Table TextStep := TextStep.all.map fun step => (step.name, step)

def genders : Table Gender := [Gender.der, .die, .das].map fun g => (g.article, g)

def cases : Table GrammaticalCase :=
  [GrammaticalCase.nominative, .accusative, .dative, .genitive].map fun c => (c.name, c)

def shapes : Table Shape := [Shape.rect, .circle, .poly].map fun s => (s.name, s)

def readBlank : Reader α (Blank α) :=
  object "ClozeBlank" fun fields =>
    Blank.mk <$> required fields "id" text <*> required fields "accepted_answers" (list text)
      <*> optional fields "normalize" [] (list (oneOf stepNames))
      <*> optional fields "weight" (Number.whole 1) amount

def readArea : Reader α (Area α) :=
  object "HotspotArea" fun fields =>
    Area.mk <$> required fields "id" text <*> required fields "shape" (oneOf shapes)
      <*> required fields "coords" (list amount) <*> optional fields "correct" false truth

def readOutcome : Reader α (Outcome α) :=
  object "PuzzleOutcome" fun fields =>
    Outcome.mk <$> optional fields "effects" [] (list Effect.read)
      <*> optional fields "next_id" none (nullable text)

def readCost : Reader α (HintCost α) :=
  object "HintCost" fun fields =>
    HintCost.mk <$> required fields "currency_id" text <*> required fields "value" amount

def readDynamic : Reader α (Dynamic α) :=
  object "PuzzleDynamic" fun fields =>
    Dynamic.mk <$> optional fields "if_attempts_gt" none (nullable whole)
      <*> optional fields "give_hint_cost" none (nullable readCost)
      <*> optional fields "extra_time_ms" none (nullable whole)

def readVariant : Reader α (Variant α) :=
  object "PuzzleVariant" fun fields =>
    Weighted.mk <$> required fields "weight" amount
      <*> optional fields "override" [] (table anything)

/-- The answer key of a kind. -/
def readTask (fields : Table (Datum α)) : PuzzleKind → Checked (Task α)
  | .mcq =>
    Task.mcq <$> required fields "options" (list text) <*> required fields "correct" (list whole)
      <*> optional fields "multiple" false truth <*> optional fields "shuffle" false truth
  | .text =>
    Task.text <$> optional fields "accepted_answers" [] (list text)
      <*> optional fields "normalize" [] (list (oneOf stepNames))
  | .regex =>
    Task.regex <$> required fields "pattern" text <*> optional fields "flags" "" text
  | .numeric =>
    Task.numeric <$> required fields "answer" amount
      <*> optional fields "tolerance" (Number.whole 0) amount
  | .articleDe =>
    Task.articleDe <$> required fields "noun" text <*> required fields "gender" (oneOf genders)
      <*> optional fields "case" none (nullable (oneOf cases))
  | .clozeText =>
    Task.clozeText <$> required fields "blanks" (list readBlank)
      <*> optional fields "shuffle_blanks" false truth
      <*> optional fields "partial_scoring" true truth
  | .matching =>
    Task.matching <$> required fields "left" (list text) <*> required fields "right" (list text)
      <*> required fields "pairs" (list (pair whole)) <*> optional fields "shuffle" false truth
      <*> optional fields "partial_scoring" true truth
  | .ordering =>
    Task.ordering <$> required fields "options" (list text)
      <*> required fields "correct_order" (list whole)
      <*> optional fields "partial_scoring" true truth
  | .hotspot =>
    Task.hotspot <$> required fields "areas" (list readArea)
      <*> optional fields "allow_multiple" false truth

/-- The media of a puzzle; a hotspot must have some field for them. -/
def readMedia (fields : Table (Datum α)) (kind : PuzzleKind) : Checked (List MediaRef) :=
  if kind = .hotspot then required fields "media" (list MediaRef.read)
  else optional fields "media" [] (list MediaRef.read)

/-- The fields of a puzzle of one kind. -/
def readFields (fields : Table (Datum α)) (kind : PuzzleKind) : Checked (Puzzle α) :=
  Puzzle.mk <$> required fields "id" text <*> optional fields "prompt" "" text
    <*> readMedia fields kind
    <*> optional fields "time_limit_ms" none (nullable whole)
    <*> optional fields "attempts_max" none (nullable whole)
    <*> optional fields "hints" [] (list text)
    <*> optional fields "variants" [] (list readVariant)
    <*> optional fields "success" none (nullable readOutcome)
    <*> optional fields "failure" none (nullable readOutcome)
    <*> optional fields "gate_choices_until_solved" false truth
    <*> optional fields "dynamic" none (nullable readDynamic)
    <*> readTask fields kind

def read : Reader α (Puzzle α)
  | .map fields =>
    match Table.get? fields "kind" with
    | none => .fail (.tagMissing "'kind'")
    | some tag =>
      let kind := match tag with
        | .text name => PuzzleKind.ofName? name
        | _ => none
      match kind with
      | some kind => (readFields fields kind).under (.field kind.name)
      | none => .fail (.tagUnknown tag.display "'kind'" (PuzzleKind.all.map PuzzleKind.name))
  | _ => .fail .noTagSource

/-! ## Variants -/

/-- The puzzle with the fields of a variant in place of its own. -/
def withVariant (p : Puzzle α) (v : Variant α) : Checked (Puzzle α) :=
  if v.item.isEmpty then .ok p
  else read (.map (p.fields.overlay v.item))

end Puzzle

end StoryRules
