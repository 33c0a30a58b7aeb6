import StoryRules.Pattern

/-!
# Using patterns

What the rules need of patterns: a pattern with its flags is refused, or it can be tried on a text.
The rules are written for any pattern language; `Pattern.language` is the one that stories are
written in.
-/

namespace StoryRules

/-- A pattern that can be tried on texts. -/
structure PatternTest where
  atStart : String → Bool
  anywhere : String → Bool

/-- Why a pattern is refused. -/
inductive PatternError where
  /-- The pattern is wrong; the message says how. -/
  | invalid (message : String)
  | fault (fault : Fault)
  deriving Repr, DecidableEq

abbrev PatternLanguage := (pattern flags : String) → Except PatternError PatternTest

def Pattern.test (p : Pattern) : PatternTest := ⟨p.matchesStart, p.matchesSomewhere⟩

def Pattern.Failure.error (pattern : String) : Pattern.Failure → PatternError
  | .invalid problem offset => .invalid (Pattern.problemText pattern problem offset)
  | .fault f => .fault f

def Pattern.language : PatternLanguage := fun pattern flags =>
  match Pattern.compile pattern flags with
  | .ok p => .ok p.test
  | .error failure => .error (failure.error pattern)

end StoryRules
