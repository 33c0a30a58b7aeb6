/-!
# Faults

What can stop an operation in the middle.  A fault is raised where it occurs: what was done before
it stays done.
-/

namespace StoryRules

/-- A whole number with more digits than this is neither read nor written. -/
def digitLimit : Nat := 4300

inductive Fault where
  /-- A whole number that no floating number can hold takes part in floating arithmetic. -/
  | amountTooLarge
  /-- A repetition count in a pattern is beyond any text. -/
  | countTooLarge
  /-- A whole number has more digits than are read or written; how many, where it is to be read. -/
  | countTooLong (digits : Option Nat)
  /-- A pattern asks for two alphabets at once. -/
  | alphabetsMixed
  /-- Bytes that are no text stand where a text is needed. -/
  | undecodable
  /-- A value of the wrong kind. -/
  | wrongKind
  /-- A hint before the first one is asked for. -/
  | noSuchHint
  deriving Repr, DecidableEq

/-- A whole number has more digits than are written. -/
abbrev Fault.unwritable : Fault := .countTooLong none

def Fault.message : Fault → String
  | .amountTooLarge => "int too large to convert to float"
  | .countTooLarge => "the repetition number is too large"
  | .countTooLong digits =>
    "Exceeds the limit (" ++ toString digitLimit ++ " digits) for integer string conversion" ++
      (match digits with
        | some n => ": value has " ++ toString n ++ " digits"
        | none => "") ++ "; use sys.set_int_max_str_digits() to increase the limit"
  | .alphabetsMixed => "ASCII and UNICODE flags are incompatible"
  | .undecodable => "the bytes are no text"
  | .wrongKind => "the value has the wrong kind"
  | .noSuchHint => "list index out of range"

end StoryRules
