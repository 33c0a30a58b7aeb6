import StoryRules.Amount
import StoryRules.Datum
import StoryRules.Json.Escape

/-!
# Writing JSON texts

Plain data as JSON in ASCII, on one line or with each item on a line of its own.
-/

namespace StoryRules.Json

/-- The text of an amount; what is no finite number has a word of its own. -/
def amountChars : Amount → List Char
  | .int n => (toString n).toList
  | .float x =>
    if x.isNaN then "NaN".toList
    else if x.isInf then (if x > 0.0 then "Infinity" else "-Infinity").toList
    else (Decimal.floatText x).toList

/-- How items are set apart: on one line, or on lines indented by this many spaces a level. -/
abbrev Layout := Option Nat

/-- What stands before the first item and, in lines, after the last one. -/
def Layout.newline (layout : Layout) (level : Nat) : List Char :=
  match layout with
  | none => []
  | some width => '\n' :: List.replicate (width * level) ' '

/-- What stands between two items. -/
def Layout.separator (layout : Layout) (level : Nat) : List Char :=
  match layout with
  | none => [',', ' ']
  | some _ => ',' :: layout.newline level

mutual

/-- The text of a value at a level.  Bytes and records are no JSON values; snapshots hold none. -/
def chars (layout : Layout) (level : Nat) : Datum Amount → List Char
  | .null => "null".toList
  | .bool b => (if b then "true" else "false").toList
  | .num x => amountChars x
  | .text s => encode s.toList
  | .bytes _ => "null".toList
  | .seq _ [] => "[]".toList
  | .seq _ (d :: rest) =>
    '[' :: layout.newline (level + 1) ++ chars layout (level + 1) d ++
      itemChars layout (level + 1) rest ++ layout.newline level ++ [']']
  | .map [] => "{}".toList
  | .map ((key, d) :: rest) =>
    '{' :: layout.newline (level + 1) ++ encode key.toList ++ [':', ' '] ++
      chars layout (level + 1) d ++ fieldChars layout (level + 1) rest ++
      layout.newline level ++ ['}']
  | .record _ _ => "null".toList

/-- Further items of an array. -/
def itemChars (layout : Layout) (level : Nat) : List (Datum Amount) → List Char
  | [] => []
  | d :: rest =>
    layout.separator level ++ chars layout level d ++ itemChars layout level rest

/-- Further fields of an object. -/
def fieldChars (layout : Layout) (level : Nat) : List (String × Datum Amount) → List Char
  | [] => []
  | (key, d) :: rest =>
    layout.separator level ++ encode key.toList ++ [':', ' '] ++ chars layout level d ++
      fieldChars layout level rest

end

def print (layout : Layout) (d : Datum Amount) : String :=
  String.ofList (chars layout 0 d)

end StoryRules.Json
