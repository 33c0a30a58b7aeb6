import StoryRules.Amount
import StoryRules.Datum
import StoryRules.Json.Escape

/-!
# Reading JSON texts

Reads a text into plain data and says where it cannot be read on.  Besides the standard there are
`NaN`, `Infinity` and `-Infinity`.  A numeral without point and exponent is a whole number; of two
fields with one name the later wins.

Texts are sequences of characters, and half of a surrogate pair without its other half is no
character.  So it is a condition on every text that is given to a play or kept by it, be it in a
story, a snapshot, an answer or a command line, that there is none in it, and on a JSON text that
there is no escape for one, `paired`.  Beyond the condition a value with such an escape is kept as
bytes that encode no text, and the name of a field with one is not kept apart from others.
-/

namespace StoryRules.Json

/-- What was expected at a place. -/
inductive Expectation where
  | value
  | delimiter (c : Char)
  | name
  | endOfText
  | text (problem : TextProblem)
  | noByteOrderMark
  deriving Repr, DecidableEq

inductive ReadError where
  /-- Reading stopped at a place. -/
  | unexpected (what : Expectation) (offset line column : Nat)
  /-- A whole number with more digits than are read. -/
  | tooManyDigits (count : Nat)
  deriving Repr, DecidableEq

def Expectation.message : Expectation → String
  | .value => "Expecting value"
  | .delimiter c => "Expecting '" ++ c.toString ++ "' delimiter"
  | .name => "Expecting property name enclosed in double quotes"
  | .endOfText => "Extra data"
  | .text .unterminated => "Unterminated string starting at"
  | .text (.control _) => "Invalid control character at"
  | .text (.escape _) => "Invalid \\escape"
  | .text (.unit _) => "Invalid \\uXXXX escape"
  | .noByteOrderMark => "Unexpected UTF-8 BOM (decode using utf-8-sig)"

def ReadError.message : ReadError → String
  | .unexpected what offset line column =>
    what.message ++ ": line " ++ toString line ++ " column " ++ toString column ++
      " (char " ++ toString offset ++ ")"
  | .tooManyDigits count =>
    "Exceeds the limit (" ++ toString digitLimit ++ " digits) for integer string conversion: " ++
      "value has " ++ toString count ++
      " digits; use sys.set_int_max_str_digits() to increase the limit"

/-! ## The reader -/

/-- Where the reader stands: what is left of the text, and how much was read. -/
structure Cursor where
  rest : List Char
  offset : Nat

/-- What stops the reader. -/
inductive Stop where
  | unexpected (what : Expectation) (offset : Nat)
  | tooManyDigits (count : Nat)

def isSpace (c : Char) : Bool := c = ' ' || c = '\t' || c = '\n' || c = '\r'

def Cursor.skip (n : Nat) (c : Cursor) : Cursor := ⟨c.rest.drop n, c.offset + n⟩

def Cursor.skipSpace (c : Cursor) : Cursor :=
  c.skip (c.rest.takeWhile isSpace).length

def Cursor.fail {β : Type} (c : Cursor) (what : Expectation) : Except Stop (β × Cursor) :=
  .error (.unexpected what c.offset)

/-- Bytes that are the text's encoding, where a surrogate without its other half keeps a place of
its own; such bytes are no valid text. -/
def bytesOfPoints (points : List Nat) : List UInt8 :=
  points.flatMap fun point =>
    if point < 0x80 then [point.toUInt8]
    else if point < 0x800 then
      [(0xC0 + point / 0x40).toUInt8, (0x80 + point % 0x40).toUInt8]
    else if point < 0x10000 then
      [(0xE0 + point / 0x1000).toUInt8, (0x80 + point / 0x40 % 0x40).toUInt8,
        (0x80 + point % 0x40).toUInt8]
    else
      [(0xF0 + point / 0x40000).toUInt8, (0x80 + point / 0x1000 % 0x40).toUInt8,
        (0x80 + point / 0x40 % 0x40).toUInt8, (0x80 + point % 0x40).toUInt8]

def isSurrogate (point : Nat) : Bool := 0xD800 ≤ point && point ≤ 0xDFFF

/-- The code points of a text, behind its opening quote. -/
def textPoints (c : Cursor) : Except Stop (List Nat × Cursor) :=
  match decode c.rest with
  | .ok (points, rest, distance) => .ok (points, ⟨rest, c.offset - 1 + distance⟩)
  | .error problem =>
    let distance := match problem with
      | .unterminated => 0
      | .control d | .escape d | .unit d => d
    .error (.unexpected (.text problem) (c.offset - 1 + distance))

def textDatum (points : List Nat) : Datum Amount :=
  if points.any isSurrogate then .bytes (bytesOfPoints points)
  else .text (String.ofList (points.map Char.ofNat))

/-- No quote opens a text with half of a surrogate pair. -/
def paired : List Char → Bool
  | [] => true
  | c :: rest =>
    (c ≠ '"' || match decode rest with
      | .ok (points, _) => !points.any isSurrogate
      | .error _ => true) && paired rest

/-- A numeral: sign, whole digits without a leading zero, and optionally a fraction and an exponent,
each with at least one digit. -/
def numeral (c : Cursor) : Except Stop (Datum Amount × Cursor) :=
  let negative := c.rest.head? = some '-'
  let unsigned := if negative then c.skip 1 else c
  let whole :=
    if unsigned.rest.head? = some '0' then ['0'] else unsigned.rest.takeWhile Char.isDigit
  if whole.isEmpty then c.fail .value
  else
    let afterWhole := unsigned.skip whole.length
    let fraction := match afterWhole.rest with
      | '.' :: rest => rest.takeWhile Char.isDigit
      | _ => []
    let afterFraction :=
      if fraction.isEmpty then afterWhole else afterWhole.skip (fraction.length + 1)
    let (exponentSign, exponent) := match afterFraction.rest with
      | e :: rest =>
        if e = 'e' || e = 'E' then
          match rest with
          | '-' :: rest => (['-'], rest.takeWhile Char.isDigit)
          | '+' :: rest => (['+'], rest.takeWhile Char.isDigit)
          | rest => ([], rest.takeWhile Char.isDigit)
        else ([], [])
      | [] => ([], [])
    let after :=
      if exponent.isEmpty then afterFraction
      else afterFraction.skip (1 + exponentSign.length + exponent.length)
    let value := fun cs : List Char => Decimal.ofDigits (cs.map fun d => d.toNat - 48)
    if fraction.isEmpty && exponent.isEmpty then
      if whole.length > digitLimit then .error (.tooManyDigits whole.length)
      else
        let n : Int := value whole
        .ok (.num (.int (if negative then -n else n)), after)
    else
      let power : Int := if exponentSign = ['-'] then -(value exponent : Int) else value exponent
      let x := (Decimal.Scientific.mk (value (whole ++ fraction)) (power - fraction.length)).toFloat
      .ok (.num (.float (if negative then -x else x)), after)

/-- The words that stand for values. -/
def words : List (List Char × Datum Amount) :=
  [("null".toList, .null), ("true".toList, .bool true), ("false".toList, .bool false),
   ("NaN".toList, .num (.float (0.0 / 0.0))), ("Infinity".toList, .num (.float (1.0 / 0.0))),
   ("-Infinity".toList, .num (.float (-1.0 / 0.0)))]

/-- A value that holds no other and is no text. -/
def atom (c : Cursor) : Except Stop (Datum Amount × Cursor) :=
  match words.find? fun word => word.1.isPrefixOf c.rest with
  | some (word, d) => .ok (d, c.skip word.length)
  | none => numeral c

mutual

/-- A value, at its first character. -/
def value : (fuel : Nat) → Cursor → Except Stop (Datum Amount × Cursor)
  | 0, c => c.fail .value
  | fuel + 1, c =>
    match c.rest with
    | '"' :: _ => do
      let (points, c) ← textPoints (c.skip 1)
      .ok (textDatum points, c)
    | '{' :: _ =>
      let c := (c.skip 1).skipSpace
      if c.rest.head? = some '}' then .ok (.map [], c.skip 1)
      else do
        let (entries, c) ← members fuel c
        .ok (.map (Table.ofEntries entries), c)
    | '[' :: _ =>
      let c := (c.skip 1).skipSpace
      if c.rest.head? = some ']' then .ok (Datum.list [], c.skip 1)
      else do
        let (items, c) ← elements fuel c
        .ok (Datum.list items, c)
    | _ => atom c

/-- The fields of an object from the first name on, with the closing brace. -/
def members : (fuel : Nat) → Cursor → Except Stop (List (String × Datum Amount) × Cursor)
  | 0, c => c.fail .name
  | fuel + 1, c =>
    if c.rest.head? ≠ some '"' then c.fail .name
    else do
      let (points, c) ← textPoints (c.skip 1)
      let c := c.skipSpace
      if c.rest.head? ≠ some ':' then c.fail (.delimiter ':')
      else
        let (d, c) ← value fuel (c.skip 1).skipSpace
        let entry := (String.ofList (points.map Char.ofNat), d)
        let c := c.skipSpace
        match c.rest with
        | '}' :: _ => .ok ([entry], c.skip 1)
        | ',' :: _ =>
          let (entries, c) ← members fuel (c.skip 1).skipSpace
          .ok (entry :: entries, c)
        | _ => c.fail (.delimiter ',')

/-- The items of an array from the first one on, with the closing bracket. -/
def elements : (fuel : Nat) → Cursor → Except Stop (List (Datum Amount) × Cursor)
  | 0, c => c.fail .value
  | fuel + 1, c => do
    let (d, c) ← value fuel c
    let c := c.skipSpace
    match c.rest with
    | ']' :: _ => .ok ([d], c.skip 1)
    | ',' :: _ =>
      let (items, c) ← elements fuel (c.skip 1).skipSpace
      .ok (d :: items, c)
    | _ => c.fail (.delimiter ',')

end

/-- A text that holds one value and nothing else. -/
def document (cs : List Char) : Except Stop (Datum Amount) :=
  if cs.head? = some (Char.ofNat 0xFEFF) then .error (.unexpected .noByteOrderMark 0)
  else do
    let (d, c) ← value (2 * cs.length + 2) (Cursor.mk cs 0).skipSpace
    let c := c.skipSpace
    if c.rest.isEmpty then .ok d else .error (.unexpected .endOfText c.offset)

/-- The error of a stop: lines are counted from one, and columns within the line. -/
def Stop.locate (cs : List Char) : Stop → ReadError
  | .tooManyDigits count => .tooManyDigits count
  | .unexpected what offset =>
    let before := cs.take offset
    let line := before.count '\n' + 1
    let column := (before.reverse.takeWhile (· ≠ '\n')).length + 1
    .unexpected what offset line column

/-- Reads a JSON text. -/
def read (s : String) : Except ReadError (Datum Amount) :=
  match document s.toList with
  | .ok d => .ok d
  | .error stop => .error (stop.locate s.toList)

end StoryRules.Json
