import StoryRules.Fault
import StoryRules.Text.Quoted

/-!
# What is wrong with a pattern

A problem is mostly found at a place in the pattern; problems of flags and of finished patterns have
no place.
-/

namespace StoryRules.Pattern

inductive Problem where
  /-- A flag letter that there is not. -/
  | unknownFlag (letter : Char)
  | badEscape (text : String)
  /-- A backslash ends the pattern. -/
  | danglingEscape
  | incompleteEscape (text : String)
  | octalTooLarge (text : String)
  | missingBrace
  | unknownCharacter (name : String)
  | unterminatedSet
  | badRange (first last : String)
  | nothingToRepeat
  | multipleRepeat
  | countsReversed
  | unexpectedEnd
  /-- Neither a name nor the character that ends it. -/
  | missingName (what : String)
  | unterminatedName (terminator : String)
  | badName (name : String)
  | unknownName (name : String)
  | redefinedName (name : String) (number before : Nat)
  | badNumber
  | unknownGroup (number : Nat)
  | openGroup
  /-- A look behind refers to a group inside itself. -/
  | ownGroup
  | unknownExtension (text : String)
  | unterminatedComment
  | unterminatedGroup
  | unbalanced
  | tooManyBranches
  /-- Flags for the whole pattern stand behind its start. -/
  | lateFlags
  | localeFlag
  | alphabetsMixed
  | unknownInlineFlag
  | flagsUnfinished
  | flagMissing
  | colonMissing
  | wholeFlagOn
  | wholeFlagOff
  | alphabetOff
  | flagOnAndOff
  | variableLookBehind
  | longLookBehind
  | repetitionRefused (operator : String)
  deriving Repr, DecidableEq

def Problem.message : Problem → String
  | .unknownFlag letter => "unknown flag '" ++ letter.toString ++ "'"
  | .badEscape text => "bad escape " ++ text
  | .danglingEscape => "bad escape (end of pattern)"
  | .incompleteEscape text => "incomplete escape " ++ text
  | .octalTooLarge text => "octal escape value " ++ text ++ " outside of range 0-0o377"
  | .missingBrace => "missing \x7b"
  | .unknownCharacter name => "undefined character name " ++ Text.quoted name
  | .unterminatedSet => "unterminated character set"
  | .badRange first last => "bad character range " ++ first ++ "-" ++ last
  | .nothingToRepeat => "nothing to repeat"
  | .multipleRepeat => "multiple repeat"
  | .countsReversed => "min repeat greater than max repeat"
  | .unexpectedEnd => "unexpected end of pattern"
  | .missingName what => "missing " ++ what
  | .unterminatedName terminator => "missing " ++ terminator ++ ", unterminated name"
  | .badName name => "bad character in group name " ++ Text.quoted name
  | .unknownName name => "unknown group name " ++ Text.quoted name
  | .redefinedName name number before =>
    "redefinition of group name " ++ Text.quoted name ++ " as group " ++ toString number ++
      "; was group " ++ toString before
  | .badNumber => "bad group number"
  | .unknownGroup number => "invalid group reference " ++ toString number
  | .openGroup => "cannot refer to an open group"
  | .ownGroup => "cannot refer to group defined in the same lookbehind subpattern"
  | .unknownExtension text => "unknown extension ?" ++ text
  | .unterminatedComment => "missing ), unterminated comment"
  | .unterminatedGroup => "missing ), unterminated subpattern"
  | .unbalanced => "unbalanced parenthesis"
  | .tooManyBranches => "conditional backref with more than two branches"
  | .lateFlags => "global flags not at the start of the expression"
  | .localeFlag => "bad inline flags: cannot use 'L' flag with a str pattern"
  | .alphabetsMixed => "bad inline flags: flags 'a', 'u' and 'L' are incompatible"
  | .unknownInlineFlag => "unknown flag"
  | .flagsUnfinished => "missing -, : or )"
  | .flagMissing => "missing flag"
  | .colonMissing => "missing :"
  | .wholeFlagOn => "bad inline flags: cannot turn on global flag"
  | .wholeFlagOff => "bad inline flags: cannot turn off global flag"
  | .alphabetOff => "bad inline flags: cannot turn off flags 'a', 'u' and 'L'"
  | .flagOnAndOff => "bad inline flags: flag turned on and off"
  | .variableLookBehind => "look-behind requires fixed-width pattern"
  | .longLookBehind => "looks too much behind"
  | .repetitionRefused operator => "internal: unsupported template operator " ++ operator

/-- Why a pattern cannot be used. -/
inductive Failure where
  /-- The pattern is wrong, at an offset or as a whole. -/
  | invalid (problem : Problem) (offset : Option Nat)
  | fault (fault : Fault)
  deriving Repr, DecidableEq

/-- A place in a pattern.  Line and column count from one and are told for patterns with several
lines. -/
def placeText (pattern : List Char) (offset : Nat) : String :=
  let before := pattern.take offset
  let column := (before.reverse.takeWhile (· ≠ '\n')).length + 1
  " at position " ++ toString offset ++
    if pattern.contains '\n' then
      " (line " ++ toString (before.count '\n' + 1) ++ ", column " ++ toString column ++ ")"
    else ""

/-- What is said of a problem in a pattern. -/
def problemText (pattern : String) (problem : Problem) (offset : Option Nat) : String :=
  match offset with
  | none => problem.message
  | some offset => problem.message ++ placeText pattern.toList offset

end StoryRules.Pattern
