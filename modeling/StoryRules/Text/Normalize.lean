import StoryRules.Text.Accent
import StoryRules.Text.Blank
import StoryRules.Text.Case

/-!
# Normalising answers

A chain of steps that brings texts into a common form before they are compared.
-/

namespace StoryRules

inductive TextStep where
  | trim
  | lower
  /-- Drops all characters beyond ASCII. -/
  | ascii
  /-- Drops accents from their letters. -/
  | noAccents
  deriving Repr, DecidableEq

namespace TextStep

def name : TextStep → String
  | .trim => "trim"
  | .lower => "lower"
  | .ascii => "ascii"
  | .noAccents => "noaccents"

def all : List TextStep := [.trim, .lower, .ascii, .noAccents]

/-- The step with a name. -/
def ofName? (name : String) : Option TextStep :=
  all.find? fun step => step.name = name

/-- The marks that `noAccents` drops. -/
def isAccent (c : Char) : Bool := 0x300 ≤ c.toNat && c.toNat ≤ 0x36F

def apply (step : TextStep) (s : String) : String :=
  match step with
  | .trim => Text.strip s
  | .lower => Text.lower s
  | .ascii => String.ofList (s.toList.filter fun c => c.toNat < 0x80)
  | .noAccents => String.ofList ((Text.decompose s.toList).filter fun c => !isAccent c)

end TextStep

/-- Applies the steps in order. -/
def normalizeText (steps : List TextStep) (s : String) : String :=
  steps.foldl (fun s step => step.apply s) s

end StoryRules
