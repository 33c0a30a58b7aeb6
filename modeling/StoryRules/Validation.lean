import StoryRules.Story.Document
import StoryRules.Validation.Redirects
import StoryRules.Validation.References

/-!
# Checking stories

A story is valid if its metadata is there, its ids are unique, everything it refers to exists and its
own rules hold.  The check lists every flaw in a fixed order; only errors make a story invalid.
-/

namespace StoryRules

variable {α : Type} [Number α]

namespace Story

def metadataFlaws (s : Story α) : List Flaw :=
  flawUnless (s.title ≠ "") (.fieldMissing "title") ++
    flawUnless (s.language ≠ "") (.fieldMissing "language") ++
    flawUnless (s.version ≠ "") (.fieldMissing "version") ++ flawUnless (!s.nodes.isEmpty) .noNodes

/-- The ids that occur again behind their first occurrence, given those seen before. -/
def repeated (seen : List String) : List String → List String
  | [] => []
  | id :: rest =>
    if seen.contains id then id :: repeated seen rest else repeated (id :: seen) rest

def duplicates (kind : String) (ids : List String) : List Flaw :=
  (repeated [] ids).map (Flaw.duplicate kind)

def idFlaws (s : Story α) : List Flaw :=
  duplicates "node" (s.nodes.map (·.id)) ++ duplicates "asset" (s.assets.map (·.id)) ++
    duplicates "item" (s.items.map (·.id)) ++ duplicates "stat" (s.stats.map (·.id)) ++
    duplicates "currency" (s.currencies.map (·.id)) ++
    duplicates "puzzle" (s.puzzles.map (·.2.id))

def statFlaws (t : Stat α) : Except Fault (List Flaw) :=
  if Number.less t.max t.min then do
    let low ← Number.text t.min
    let high ← Number.text t.max
    .ok [.boundsReversed t.id low high]
  else if Number.atMost t.min t.start && Number.atMost t.start t.max then .ok []
  else do
    let start ← Number.text t.start
    let low ← Number.text t.min
    let high ← Number.text t.max
    .ok [.startOutside t.id start low high]

/-- The nodes behind the first that nothing refers to. -/
def unreferenced (s : Story α) : List Flaw :=
  match s.nodes with
  | [] => []
  | first :: _ =>
    let targets := s.nodes.flatMap Node.targets
    (s.nodes.filter fun n => n.id ≠ first.id && !targets.contains n.id).map fun n =>
      .unreferenced n.id

def nodeFlaws (language : PatternLanguage) (s : Story α) :
    List (Node α) → Except Fault (List Flaw)
  | [] => .ok []
  | n :: rest => do
    let flaws ← n.flaws language s
    let more ← nodeFlaws language s rest
    .ok (flaws ++ more)

/-- Every flaw of a story. -/
def flaws (language : PatternLanguage) (s : Story α) : Except Fault (List Flaw) := do
  let stats ← s.stats.mapM statFlaws
  let nodes ← s.nodeFlaws language s.nodes
  .ok (s.metadataFlaws ++ s.idFlaws ++ stats.flatten ++ nodes ++ s.unreferenced ++
    (Redirects.cycles s.redirects).map .redirectCycle)

end Story

/-- The outcome of checking a story. -/
structure Verdict where
  errors : List String
  warnings : List String
  deriving Repr, DecidableEq

namespace Verdict

def ofFlaws (flaws : List Flaw) : Verdict :=
  { errors := (flaws.filter (!·.isWarning)).map Flaw.text
    warnings := (flaws.filter (·.isWarning)).map Flaw.text }

def valid (v : Verdict) : Bool := v.errors.isEmpty

end Verdict

/-- What is said of a refused story. -/
def Verdict.message (v : Verdict) : String :=
  "Story validation failed with " ++ toString v.errors.length ++ " error(s):\n" ++
    String.intercalate "\n" (v.errors.map fun e => "  - " ++ e)

def Story.check (language : PatternLanguage) (s : Story α) : Except Fault Verdict := do
  let flaws ← s.flaws language
  .ok (.ofFlaws flaws)

def Story.ShapeError.verdict (e : Story.ShapeError) : Verdict :=
  { errors := e.messages, warnings := [] }

end StoryRules
