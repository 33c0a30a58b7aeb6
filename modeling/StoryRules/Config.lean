import StoryRules.Decimal.Numeral
import StoryRules.Fault
import StoryRules.Log
import StoryRules.Text.Blank
import StoryRules.Text.Case
import StoryRules.Text.Digit
import StoryRules.Text.Quoted

/-!
# Settings

Limits and defaults of an engine, read from environment variables.
-/

namespace StoryRules

structure Config where
  /-- How many redirects in a row are followed. -/
  maxRedirectDepth : Int := 32
  /-- Where to start instead of at the first node. -/
  startNode : Option String := none
  logLevel : String := "WARNING"
  deriving Repr, DecidableEq

namespace Config

/-- The whole number that a setting writes: digits of any script, blanks around them. -/
def wholeSetting? (s : String) : Option Int :=
  Decimal.whole? Text.digitValue? digitLimit (Text.strip s)

/-- The settings of an environment.  A depth that is no number is reported and ignored; an empty
depth or start node is none. -/
def ofEnvironment (setting? : String → Option String) : Config × List LogLine :=
  let raw := (setting? "AVENTURA_MAX_REDIRECT_DEPTH").getD ""
  let (depth, log) :=
    if raw = "" then ((32 : Int), [])
    else match wholeSetting? raw with
      | some n => (max 0 n, [])
      | none =>
        (32, [.plain .warning ("Ignoring AVENTURA_MAX_REDIRECT_DEPTH=" ++ Text.quoted raw ++
          "; expected an integer")])
  let start := match setting? "AVENTURA_START_NODE" with
    | none => none
    | some "" => none
    | some id => some id
  let level := Text.upper ((setting? "AVENTURA_LOG_LEVEL").getD "WARNING")
  ({ maxRedirectDepth := depth, startNode := start, logLevel := level }, log)

end Config

end StoryRules
