import StoryRules.Datum
import StoryRules.Text.Quoted

/-!
# The text of plain data

How a value appears in messages: `written` and `quoted` show its kind (texts stand in quotes), `display`
shows a text as it is.
-/

namespace StoryRules.Datum

/-- One byte of quoted bytes. -/
def quoteByte (quote : Char) (b : UInt8) : String :=
  let c := Char.ofNat b.toNat
  if c = quote || c = '\\' then String.ofList ['\\', c]
  else if c = '\n' then "\\n"
  else if c = '\r' then "\\r"
  else if c = '\t' then "\\t"
  else if 0x20 ≤ b ∧ b < 0x7F then c.toString
  else "\\x" ++ Text.hexText 2 b.toNat

def quotedBytes (bs : List UInt8) : String :=
  let quote := if bs.contains 39 && !bs.contains 34 then '"' else '\''
  "b" ++ quote.toString ++ String.join (bs.map (quoteByte quote)) ++ quote.toString

def truthText (b : Bool) : String := if b then "True" else "False"

def recordName : RecordKind → String
  | .progress => "PuzzleState"
  | .timer => "TimerState"

/-- Sequences of each kind have brackets of their own. -/
def bracketed (kind : SeqKind) (items : List String) : String :=
  let inner := String.intercalate ", " items
  match kind, items with
  | .list, _ => "[" ++ inner ++ "]"
  | .tuple, [item] => "(" ++ item ++ ",)"
  | .tuple, _ => "(" ++ inner ++ ")"
  | .set, [] => "set()"
  | .set, _ => "\x7b" ++ inner ++ "\x7d"
  | .frozenSet, [] => "frozenset()"
  | .frozenSet, _ => "frozenset(\x7b" ++ inner ++ "\x7d)"

variable {α : Type} [Number α]

mutual

/-- The text of a value inside a message, unless a number in it has too many digits. -/
def written : Datum α → Except Fault String
  | .null => .ok "None"
  | .bool b => .ok (truthText b)
  | .num x => Number.text x
  | .text s => .ok (Text.quoted s)
  | .bytes bs => .ok (quotedBytes bs)
  | .seq kind items => do
    let items ← writtenItems items
    .ok (bracketed kind items)
  | .map fields => do
    let fields ← writtenFields fields
    .ok ("\x7b" ++ String.intercalate ", "
      (fields.map fun (key, d) => Text.quoted key ++ ": " ++ d) ++ "\x7d")
  | .record kind fields => do
    let fields ← writtenFields fields
    .ok (recordName kind ++ "(" ++ String.intercalate ", "
      (fields.map fun (key, d) => key ++ "=" ++ d) ++ ")")

def writtenItems : List (Datum α) → Except Fault (List String)
  | [] => .ok []
  | d :: rest => do
    let d ← d.written
    let rest ← writtenItems rest
    .ok (d :: rest)

def writtenFields : List (String × Datum α) → Except Fault (List (String × String))
  | [] => .ok []
  | (key, d) :: rest => do
    let d ← d.written
    let rest ← writtenFields rest
    .ok ((key, d) :: rest)

end

/-- The name of a value's kind. -/
def kindName : Datum α → String
  | .null => "NoneType"
  | .bool _ => "bool"
  | .num x => if (Number.whole? x).isSome then "int" else "float"
  | .text _ => "str"
  | .bytes _ => "bytes"
  | .seq .list _ => "list"
  | .seq .tuple _ => "tuple"
  | .seq .set _ => "set"
  | .seq .frozenSet _ => "frozenset"
  | .map _ => "dict"
  | .record kind _ => recordName kind

/-- The text of a value inside a message that is given in any case. -/
def quoted (d : Datum α) : String :=
  match d.written with
  | .ok shown => shown
  | .error _ => "<unprintable " ++ d.kindName ++ " object>"

/-- The text of a value standing alone. -/
def display : Datum α → String
  | .text s => s
  | d => d.quoted

end StoryRules.Datum
