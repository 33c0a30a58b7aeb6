import StoryRules.Datum.Display

/-!
# Problems of a document

A problem is a cause at a place.  Places are paths of field names and positions; the branch of a
tagged choice is a step of its own.
-/

namespace StoryRules

inductive PathStep where
  | field (name : String)
  | index (i : Nat)
  deriving Repr, DecidableEq

def PathStep.text : PathStep → String
  | .field name => name
  | .index i => toString i

/-- Why a value does not fit where it stands. -/
inductive Cause where
  | missing
  | notText
  | textUndecodable
  | notWhole
  | wholeText
  | wholeFraction
  | wholeNotFinite
  | wholeTooLarge
  | notNumber
  | numberText
  | notTruth
  | truthValue
  | notOneOf (choices : List String)
  | notList
  | notTable
  | notSet
  | notPair
  | pairTooLong (count : Nat)
  /-- Neither fields nor an object of this name. -/
  | notObject (name : String)
  /-- Neither fields nor a record of this name. -/
  | notRecord (name : String)
  /-- Nothing to take a tag from. -/
  | noTagSource
  | tagMissing (source : String)
  | tagUnknown (tag source : String) (expected : List String)
  deriving Repr, DecidableEq

/-- Items in quotes with commas between, and `or` before the last. -/
def alternatives (items : List String) : String :=
  match items.reverse with
  | [] => ""
  | [last] => "'" ++ last ++ "'"
  | last :: others =>
    String.intercalate ", " (others.reverse.map fun s => "'" ++ s ++ "'") ++ " or '" ++ last ++ "'"

def Cause.message : Cause → String
  | .missing => "Field required"
  | .notText => "Input should be a valid string"
  | .textUndecodable =>
    "Input should be a valid string, unable to parse raw data as a unicode string"
  | .notWhole => "Input should be a valid integer"
  | .wholeText => "Input should be a valid integer, unable to parse string as an integer"
  | .wholeFraction => "Input should be a valid integer, got a number with a fractional part"
  | .wholeNotFinite => "Input should be a finite number"
  | .wholeTooLarge => "Unable to parse input string as an integer, exceeded maximum size"
  | .notNumber => "Input should be a valid number"
  | .numberText => "Input should be a valid number, unable to parse string as a number"
  | .notTruth => "Input should be a valid boolean"
  | .truthValue => "Input should be a valid boolean, unable to interpret input"
  | .notOneOf choices => "Input should be " ++ alternatives choices
  | .notList => "Input should be a valid list"
  | .notTable => "Input should be a valid dictionary"
  | .notSet => "Input should be a valid set"
  | .notPair => "Input should be a valid tuple"
  | .pairTooLong count =>
    "Tuple should have at most 2 items after validation, not " ++ toString count
  | .notObject name => "Input should be a valid dictionary or instance of " ++ name
  | .notRecord name => "Input should be a dictionary or an instance of " ++ name
  | .noTagSource => "Input should be a valid dictionary or object to extract fields from"
  | .tagMissing source => "Unable to extract tag using discriminator " ++ source
  | .tagUnknown tag source expected =>
    "Input tag '" ++ tag ++ "' found using " ++ source ++
      " does not match any of the expected tags: " ++
      String.intercalate ", " (expected.map fun s => "'" ++ s ++ "'")

structure Problem where
  path : List PathStep
  cause : Cause
  deriving Repr, DecidableEq

namespace Problem

def place (p : Problem) : String :=
  String.intercalate "." (p.path.map PathStep.text)

/-- A problem with its place, for a value that is called `whole` as a whole. -/
def text (whole : String) (p : Problem) : String :=
  (if p.place = "" then whole else p.place) ++ ": " ++ p.cause.message

def under (step : PathStep) (p : Problem) : Problem :=
  { p with path := step :: p.path }

end Problem

/-- The outcome of reading a document: a value, or everything that is wrong with it. -/
inductive Checked (β : Type) where
  | ok (value : β)
  | bad (problems : List Problem)

namespace Checked

variable {β γ : Type}

def fail (cause : Cause) : Checked β := .bad [⟨[], cause⟩]

/-- Puts all problems one step further down. -/
def under (step : PathStep) : Checked β → Checked β
  | .ok b => .ok b
  | .bad problems => .bad (problems.map (Problem.under step))

def map (f : β → γ) : Checked β → Checked γ
  | .ok b => .ok (f b)
  | .bad problems => .bad problems

/-- Both sides are read, and the problems of both are kept. -/
def both (f : Checked (β → γ)) (b : Checked β) : Checked γ :=
  match f, b with
  | .ok f, .ok b => .ok (f b)
  | .ok _, .bad problems => .bad problems
  | .bad problems, .ok _ => .bad problems
  | .bad problems, .bad more => .bad (problems ++ more)

def bind (b : Checked β) (f : β → Checked γ) : Checked γ :=
  match b with
  | .ok b => f b
  | .bad problems => .bad problems

instance : Applicative Checked where
  pure := .ok
  seq f b := both f (b ())
  map := map

def toExcept : Checked β → Except (List Problem) β
  | .ok b => .ok b
  | .bad problems => .error problems

end Checked

end StoryRules
