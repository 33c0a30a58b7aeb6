import StoryRules.Datum
import StoryRules.Effect
import StoryRules.Media
import StoryRules.Text.Normalize

/-!
# Puzzles

A puzzle has a header that all kinds share (prompt, limits, hints, variants, outcomes) and a task of
one of nine kinds with its answer key.  A variant overrides some fields of the puzzle's document.
-/

namespace StoryRules

inductive PuzzleKind where
  | mcq
  | text
  | regex
  | numeric
  | articleDe
  | clozeText
  | matching
  | ordering
  | hotspot
  deriving Repr, DecidableEq

namespace PuzzleKind

def name : PuzzleKind → String
  | .mcq => "mcq"
  | .text => "text"
  | .regex => "regex"
  | .numeric => "numeric"
  | .articleDe => "article_de"
  | .clozeText => "cloze_text"
  | .matching => "matching"
  | .ordering => "ordering"
  | .hotspot => "hotspot"

def all : List PuzzleKind :=
  [.mcq, .text, .regex, .numeric, .articleDe, .clozeText, .matching, .ordering, .hotspot]

def ofName? (name : String) : Option PuzzleKind :=
  all.find? fun kind => kind.name = name

end PuzzleKind

/-- The definite articles of German nouns. -/
inductive Gender where
  | der
  | die
  | das
  deriving Repr, DecidableEq

def Gender.article : Gender → String
  | .der => "der"
  | .die => "die"
  | .das => "das"

inductive GrammaticalCase where
  | nominative
  | accusative
  | dative
  | genitive
  deriving Repr, DecidableEq

def GrammaticalCase.name : GrammaticalCase → String
  | .nominative => "NOM"
  | .accusative => "AKK"
  | .dative => "DAT"
  | .genitive => "GEN"

inductive Shape where
  | rect
  | circle
  | poly
  deriving Repr, DecidableEq

def Shape.name : Shape → String
  | .rect => "rect"
  | .circle => "circle"
  | .poly => "poly"

/-- A gap in a text, with the answers it takes. -/
structure Blank (α : Type) where
  id : String
  accepted : List String
  steps : List TextStep
  weight : α

/-- An area of an image. -/
structure Area (α : Type) where
  id : String
  shape : Shape
  coords : List α
  correct : Bool

/-- What is asked, with the answer key. -/
inductive Task (α : Type) where
  | mcq (options : List String) (correct : List Int) (multiple shuffle : Bool)
  | text (accepted : List String) (steps : List TextStep)
  | regex (pattern flags : String)
  | numeric (answer tolerance : α)
  | articleDe (noun : String) (gender : Gender) (case : Option GrammaticalCase)
  | clozeText (blanks : List (Blank α)) (shuffle partialScoring : Bool)
  | matching (left right : List String) (pairs : List (Int × Int)) (shuffle partialScoring : Bool)
  | ordering (options : List String) (order : List Int) (partialScoring : Bool)
  | hotspot (areas : List (Area α)) (allowMultiple : Bool)

def Task.kind {α : Type} : Task α → PuzzleKind
  | .mcq .. => .mcq
  | .text .. => .text
  | .regex .. => .regex
  | .numeric .. => .numeric
  | .articleDe .. => .articleDe
  | .clozeText .. => .clozeText
  | .matching .. => .matching
  | .ordering .. => .ordering
  | .hotspot .. => .hotspot

/-- What a hint costs. -/
structure HintCost (α : Type) where
  currency : String
  value : α

/-- Rules that depend on the attempts made: hints open up and time is added once the attempts exceed
a threshold. -/
structure Dynamic (α : Type) where
  attemptsAbove : Option Int
  hintCost : Option (HintCost α)
  extraTime : Option Int

/-- What follows when a puzzle is solved or failed. -/
structure Outcome (α : Type) where
  effects : List (Effect α)
  next : Option String

/-- A weighted override of some fields. -/
abbrev Variant (α : Type) := Weighted α (Table (Datum α))

structure Puzzle (α : Type) where
  id : String
  prompt : String
  media : List MediaRef
  timeLimit : Option Int
  attemptsMax : Option Int
  hints : List String
  variants : List (Variant α)
  success : Option (Outcome α)
  failure : Option (Outcome α)
  gatesChoices : Bool
  dynamic : Option (Dynamic α)
  task : Task α

namespace Puzzle

variable {α : Type}

def kind (p : Puzzle α) : PuzzleKind := p.task.kind

/-- The outcome of success or of failure. -/
def outcome? (p : Puzzle α) (success : Bool) : Option (Outcome α) :=
  if success then p.success else p.failure

end Puzzle

end StoryRules
