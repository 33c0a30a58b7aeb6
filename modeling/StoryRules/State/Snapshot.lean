import StoryRules.Datum.Plain
import StoryRules.Json.Printer
import StoryRules.Json.Reader
import StoryRules.Schema.Reader
import StoryRules.State

/-!
# Snapshots

A snapshot is a state as plain data that a JSON text can hold; restoring it gives the state back.
Restoring is lenient about the kinds of values, like all reading, and reports every problem.
-/

namespace StoryRules

variable {α : Type}

/-! ## Taking -/

/-- The record of a puzzle.  Of its last answer the numbers that are not finite are left out. -/
def Progress.document [Number α] (p : Progress α) : Except Fault (Datum α) := do
  let answer ← p.lastAnswer.plain
  .ok (.map [("solved", .bool p.solved), ("attempts", .whole p.attempts),
    ("time_ms", Datum.ofOption .whole p.timeMs), ("score", Datum.ofOption .num p.score),
    ("last_answer", answer.finitePart), ("solved_at", Datum.ofOption .whole p.solvedAt),
    ("hints_used", .whole p.hintsUsed)])

namespace State

variable [Number α]

def progressDocuments : Table (Progress α) → Except Fault (Table (Datum α))
  | [] => .ok []
  | (id, p) :: rest => do
    let d ← p.document
    let rest ← progressDocuments rest
    .ok ((id, d) :: rest)

def timerDocument (end_ : Int) : Datum α := .map [("expires_at", .whole end_)]

def lockDocument (indices : List Int) : Datum α := .list (indices.map .whole)

/-- The fields of a snapshot. -/
def snapshotFields (s : State α) : Except Fault (Table (Datum α)) := do
  let puzzles ← progressDocuments s.puzzles
  .ok [("current_node_id", .text s.currentNode), ("visited", .texts s.visited),
    ("inventory", .map (s.inventory.mapValues .whole)),
    ("currencies", .map (s.currencies.mapValues .num)),
    ("stats", .map (s.stats.mapValues .num)), ("flags", .map (s.flags.mapValues .bool)),
    ("puzzles", .map puzzles), ("timers", .map (s.timers.mapValues timerDocument)),
    ("locked_choices", .map (s.lockedChoices.mapValues lockDocument))]

/-- The snapshot of a state.  It fails only for an answer with bytes that are no text. -/
def snapshot (s : State α) : Except Fault (Datum α) := do
  let fields ← s.snapshotFields
  .ok (.map fields)

/-- The snapshot as a JSON text. -/
def toJson (s : State Amount) (layout : Json.Layout) : Except Fault String := do
  let d ← s.snapshot
  .ok (Json.print layout d)

end State

/-! ## Restoring -/

open Reader

namespace Reader

/-- A list without repetitions. -/
def textSet [Number α] : Reader α (List String) := fun d =>
  match d with
  | .seq _ items => (itemsFrom text 0 items).map List.eraseDups
  | _ => .fail .notSet

end Reader

/-- The fields of a record of progress, with `score` for the score. -/
def Progress.readFields [Number α] (score : Reader α α) (fields : Table (Datum α)) :
    Checked (Progress α) :=
  Progress.mk <$> optional fields "solved" false truth <*> optional fields "attempts" 0 whole
    <*> optional fields "time_ms" none (nullable whole)
    <*> optional fields "score" none (nullable score)
    <*> optional fields "last_answer" .null anything
    <*> optional fields "solved_at" none (nullable whole)
    <*> optional fields "hints_used" 0 whole

/-- A record of progress, or its fields.  A record keeps its score as it is. -/
def Progress.read [Number α] : Reader α (Progress α)
  | .map fields => readFields measure fields
  | .record .progress fields => readFields amount fields
  | _ => .fail (.notRecord "PuzzleState")

/-- Why a snapshot cannot be restored. -/
inductive RestoreError where
  | unreadable (error : Json.ReadError)
  | notObject
  | malformed (problems : List Problem)

def RestoreError.message : RestoreError → String
  | .unreadable (.tooManyDigits count) => (Json.ReadError.tooManyDigits count).message
  | .unreadable error => "Invalid state JSON: " ++ error.message
  | .notObject => "State snapshot must be a JSON object"
  | .malformed problems =>
    "Malformed state snapshot: " ++ String.intercalate "; " (problems.map (Problem.text ""))

namespace State

variable [Number α]

/-- A record of a timer, or its fields. -/
def readTimer : Reader α Int
  | .map fields => required fields "expires_at" whole
  | .record .timer fields => required fields "expires_at" whole
  | _ => .fail (.notRecord "TimerState")

def readFields (fields : Table (Datum α)) : Checked (State α) :=
  State.mk <$> required fields "current_node_id" text <*> optional fields "visited" [] textSet
    <*> optional fields "inventory" [] (table whole)
    <*> optional fields "currencies" [] (table amount)
    <*> optional fields "stats" [] (table amount) <*> optional fields "flags" [] (table truth)
    <*> optional fields "puzzles" [] (table Progress.read)
    <*> optional fields "timers" [] (table readTimer)
    <*> optional fields "locked_choices" [] (table (list whole))

/-- The state of a snapshot. -/
def restore : Datum α → Except RestoreError (State α)
  | .map fields => match readFields fields with
    | .ok s => .ok s
    | .bad problems => .error (.malformed problems)
  | _ => .error .notObject

/-- The state of a snapshot's JSON text. -/
def restoreText (text : String) : Except RestoreError (State Amount) :=
  match Json.read text with
  | .ok d => restore d
  | .error error => .error (.unreadable error)

end State

/-! ## Equality -/

namespace State

variable [Number α]

/-- Equality of tables without regard to order. -/
def sameTable {β : Type} (same : β → β → Bool) (t u : Table β) : Bool :=
  t.length = u.length && t.all fun (key, b) =>
    match u.get? key with
    | some c => same b c
    | none => false

def sameOption {β : Type} (same : β → β → Bool) : Option β → Option β → Bool
  | none, none => true
  | some b, some c => same b c
  | _, _ => false

def sameProgress (p q : Progress α) : Bool :=
  p.solved = q.solved && p.attempts = q.attempts && p.timeMs = q.timeMs &&
    sameOption Number.alike p.score q.score && p.lastAnswer.same q.lastAnswer &&
    p.solvedAt = q.solvedAt && p.hintsUsed = q.hintsUsed

/-- Equality of states by value.  An amount that is no number is like itself, except in a last
answer. -/
def same (s t : State α) : Bool :=
  s.currentNode = t.currentNode &&
    s.visited.length = t.visited.length && s.visited.all (t.visited.contains ·) &&
    sameTable (· = ·) s.inventory t.inventory && sameTable Number.alike s.currencies t.currencies &&
    sameTable Number.alike s.stats t.stats && sameTable (· = ·) s.flags t.flags &&
    sameTable sameProgress s.puzzles t.puzzles && sameTable (· = ·) s.timers t.timers &&
    sameTable (· = ·) s.lockedChoices t.lockedChoices

end State

end StoryRules
