import StoryRules.Schema.Problem
import StoryRules.Decimal.Numeral
import StoryRules.Text.Blank

/-!
# Reading fields

Readers turn plain data into typed values.  They are lenient where nothing is lost: a text may write
a number or a truth value, a number may stand for a truth value, any sequence is a list.  All
problems of a document are reported, in the order in which the fields are declared.
-/

namespace StoryRules

abbrev Reader (α β : Type) := Datum α → Checked β

namespace Reader

variable {α β γ : Type} [Number α]

/-! ## Texts -/

def decodeBytes? (bs : List UInt8) : Option String :=
  String.fromUTF8? ⟨bs.toArray⟩

def text : Reader α String
  | .text s => .ok s
  | .bytes bs => match decodeBytes? bs with
    | some s => .ok s
    | none => .fail .textUndecodable
  | _ => .fail .notText

def oneOf (choices : List (String × β)) : Reader α β
  | .text s => match Table.get? choices s with
    | some b => .ok b
    | none => .fail (.notOneOf (choices.map Prod.fst))
  | _ => .fail (.notOneOf (choices.map Prod.fst))

/-! ## Numbers -/

/-- A whole numeral with white space around it, and a point and zeros behind it. -/
def wholeOfText (s : String) : Except Cause Int :=
  let cs := Text.trimBoth Text.isWhite s.toList
  if (String.ofList cs).utf8ByteSize > 4300 then .error .wholeTooLarge
  else
    let whole := cs.takeWhile (· ≠ '.')
    let fraction := cs.dropWhile (· ≠ '.')
    if fraction.isEmpty || (fraction.length > 1 && fraction.tail.all (· = '0')) then
      match Decimal.whole? Decimal.asciiDigit? 4300 (String.ofList whole) with
      | some n => .ok n
      | none => .error .wholeText
    else .error .wholeText

def whole : Reader α Int
  | .bool b => .ok (if b then 1 else 0)
  | .num x => match Number.toWhole x with
    | .ok n => .ok n
    | .error .notFinite => .fail .wholeNotFinite
    | .error .fraction => .fail .wholeFraction
    | .error .tooLarge => .fail .wholeTooLarge
  | .text s => match wholeOfText s with
    | .ok n => .ok n
    | .error cause => .fail cause
  | .bytes bs => match decodeBytes? bs with
    | none => .fail .wholeText
    | some s => match wholeOfText s with
      | .ok n => .ok n
      | .error cause => .fail cause
  | _ => .fail .notWhole

def measureOfText (s : String) : Checked α :=
  let trimmed := String.ofList (Text.trimBoth Text.isWhite s.toList)
  match Number.measureOfText? Decimal.asciiDigit? trimmed with
  | some x => .ok x
  | none => .fail .numberText

/-- A measured amount. -/
def measure : Reader α α
  | .bool b => .ok (Number.measure (if b then 1 else 0))
  | .num x => match Number.toMeasure? x with
    | some y => .ok y
    | none => .fail .notNumber
  | .text s => measureOfText s
  | .bytes bs => match decodeBytes? bs with
    | some s => measureOfText s
    | none => .fail .numberText
  | _ => .fail .notNumber

/-- An amount of either kind.  What is no number is read as a whole one if it can be, else as a
measured one. -/
def amount (d : Datum α) : Checked α :=
  match d with
  | .num x => .ok x
  | d => match whole d with
    | .ok n => .ok (Number.whole n)
    | .bad problems => match measure d with
      | .ok x => .ok x
      | .bad more =>
        .bad (problems.map (Problem.under (.field "int")) ++
          more.map (Problem.under (.field "float")))

/-! ## Truth values -/

def truthWords : Table Bool :=
  (["1", "on", "t", "true", "y", "yes"].map fun s => (s, true)) ++
    ["0", "off", "f", "false", "n", "no"].map fun s => (s, false)

def truthOfText (s : String) : Checked Bool :=
  match Table.get? truthWords (String.ofList (s.toList.map Char.toLower)) with
  | some b => .ok b
  | none => .fail .truthValue

def truthOfWhole (n : Int) : Checked Bool :=
  if n = 0 then .ok false
  else if n = 1 then .ok true
  else if -0x8000000000000000 ≤ n ∧ n < 0x8000000000000000 then .fail .truthValue
  else .fail .notTruth

def truth : Reader α Bool
  | .bool b => .ok b
  | .num x => match Number.toWhole x with
    | .ok n => truthOfWhole n
    | .error _ => .fail .notTruth
  | .text s => truthOfText s
  | .bytes bs => match decodeBytes? bs with
    | some s => truthOfText s
    | none => .fail .truthValue
  | _ => .fail .notTruth

/-! ## Containers -/

def nullable (read : Reader α β) : Reader α (Option β)
  | .null => .ok none
  | d => (read d).map some

/-- Any value, as it is. -/
def anything : Reader α (Datum α) := .ok

/-- Reads items from position `i` on. -/
def itemsFrom (read : Reader α β) : Nat → List (Datum α) → Checked (List β)
  | _, [] => .ok []
  | i, d :: rest =>
    List.cons <$> (read d).under (.index i) <*> itemsFrom read (i + 1) rest

def list (read : Reader α β) : Reader α (List β)
  | .seq _ items => itemsFrom read 0 items
  | _ => .fail .notList

/-- Reads the values of a table. -/
def entriesFrom (read : Reader α β) : List (String × Datum α) → Checked (Table β)
  | [] => .ok []
  | (key, d) :: rest =>
    List.cons <$> ((read d).under (.field key)).map (fun b => (key, b)) <*> entriesFrom read rest

def table (read : Reader α β) : Reader α (Table β)
  | .map fields => entriesFrom read fields
  | _ => .fail .notTable

/-- Two items of one kind. -/
def pair (read : Reader α β) : Reader α (β × β)
  | .seq _ [] => .bad [⟨[.index 0], .missing⟩, ⟨[.index 1], .missing⟩]
  | .seq _ [a] =>
    Prod.mk <$> (read a).under (.index 0) <*> (Checked.fail .missing).under (.index 1)
  | .seq _ [a, b] => Prod.mk <$> (read a).under (.index 0) <*> (read b).under (.index 1)
  | .seq _ items => .fail (.pairTooLong items.length)
  | _ => .fail .notPair

/-! ## Fields -/

/-- A field that must be there. -/
def required (fields : Table (Datum α)) (name : String) (read : Reader α β) : Checked β :=
  match fields.get? name with
  | some d => (read d).under (.field name)
  | none => .bad [⟨[.field name], .missing⟩]

/-- A field with a default. -/
def optional (fields : Table (Datum α)) (name : String) (default : β) (read : Reader α β) :
    Checked β :=
  match fields.get? name with
  | some d => (read d).under (.field name)
  | none => .ok default

/-- The fields of an object called `name`. -/
def object (name : String) (read : Table (Datum α) → Checked β) : Reader α β
  | .map fields => read fields
  | _ => .fail (.notObject name)

end Reader

end StoryRules
