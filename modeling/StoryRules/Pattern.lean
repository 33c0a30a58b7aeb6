import StoryRules.Pattern.Matcher
import StoryRules.Pattern.Reader

/-!
# Patterns

A pattern is compiled once, with single-letter flags, and then tried on texts, at their start or
anywhere.
-/

namespace StoryRules

structure Pattern where
  body : List Pattern.Node
  modes : Pattern.Modes
  /-- How many groups capture. -/
  groups : Nat

namespace Pattern

/-- The modes of a flag; some flags ask for nothing of the pattern itself. -/
def flagModes? : Char → Option Modes
  | 'i' => some { ignoreCase := true }
  | 'm' => some { multiline := true }
  | 's' => some { dotAll := true }
  | 'u' | 'g' | 'y' => some {}
  | _ => none

def modesOf : List Char → Except Failure Modes
  | [] => .ok {}
  | letter :: rest =>
    match flagModes? letter with
    | none => .error (.invalid (.unknownFlag letter) none)
    | some modes => do
      let others ← modesOf rest
      .ok (modes.union others)

def operatorName : Greed → String
  | .greedy => "MAX_REPEAT"
  | .lazy => "MIN_REPEAT"
  | .possessive => "POSSESSIVE_REPEAT"

namespace Node

mutual

/-- What is wrong with a node that is in itself well written: a look behind has to know how far to go
back. -/
def problem? (modes : Modes) : Node → Option Problem
  | .group _ _ _ body => problemOf? modes body
  | .atomic body => problemOf? modes body
  | .times greed _ _ body =>
    if modes.plain then some (.repetitionRefused (operatorName greed)) else problem? modes body
  | .either branches => problemOfAny? modes branches
  | .ifTaken _ yes no => (problemOf? modes yes).or (problemOf? modes no)
  | .look behind _ body =>
    let w := widthOf body
    if behind && w.least > countLimit then some .longLookBehind
    else if behind && w.least ≠ w.most then some .variableLookBehind
    else problemOf? modes body
  | _ => none

def problemOf? (modes : Modes) : List Node → Option Problem
  | [] => none
  | n :: rest => (problem? modes n).or (problemOf? modes rest)

def problemOfAny? (modes : Modes) : List (List Node) → Option Problem
  | [] => none
  | branch :: rest => (problemOf? modes branch).or (problemOfAny? modes rest)

end

end Node

def compile (pattern flags : String) : Except Failure Pattern := do
  let modes ← modesOf flags.toList
  let (body, r) ← Pattern.pattern.run { tokens := Token.ofChars pattern.toList, modes := modes }
  match Node.problemOf? r.modes body with
  | some problem => .error (.invalid problem none)
  | none => .ok ⟨body, r.modes, r.widths.length⟩

/-- Whether a match starts at an offset. -/
def matchesAt (p : Pattern) (text : Array Char) (offset : Nat) : Bool :=
  (Node.matcherOf text p.modes p.body { offset := offset } some).isSome

def matchesStart (p : Pattern) (text : String) : Bool := p.matchesAt text.toList.toArray 0

def matchesSomewhere (p : Pattern) (text : String) : Bool :=
  let text := text.toList.toArray
  (List.range (text.size + 1)).any (p.matchesAt text)

end Pattern

end StoryRules
