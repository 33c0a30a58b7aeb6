import StoryRules.Text.Quoted

/-!
# Texts inside JSON

`encode` writes a text between double quotes in ASCII: a character beyond ASCII by its 16-bit units.
`decode` reads such a text; it also takes characters that stand for themselves.  Two escaped units
join to one character when they are a surrogate pair.
-/

namespace StoryRules.Json

/-! ## Writing -/

/-- The escape of one 16-bit unit. -/
def unitEscape (unit : Nat) : List Char :=
  '\\' :: 'u' :: (Text.hexText 4 unit).toList

def escapeChar (c : Char) : List Char :=
  if c = '"' then ['\\', '"']
  else if c = '\\' then ['\\', '\\']
  else if c = '\n' then ['\\', 'n']
  else if c = '\r' then ['\\', 'r']
  else if c = '\t' then ['\\', 't']
  else if c.toNat = 0x0C then ['\\', 'f']
  else if c.toNat = 0x08 then ['\\', 'b']
  else if 0x20 ≤ c.toNat ∧ c.toNat ≤ 0x7E then [c]
  else if c.toNat < 0x10000 then unitEscape c.toNat
  else
    let offset := c.toNat - 0x10000
    unitEscape (0xD800 + offset / 0x400) ++ unitEscape (0xDC00 + offset % 0x400)

def encode (s : List Char) : List Char :=
  '"' :: s.flatMap escapeChar ++ ['"']

/-! ## Reading -/

/-- Where a text cannot be read on, counted from its opening quote. -/
inductive TextProblem where
  /-- The text ends before its closing quote. -/
  | unterminated
  /-- A control character at this distance. -/
  | control (offset : Nat)
  /-- A backslash at this distance with no known letter behind it. -/
  | escape (offset : Nat)
  /-- A `u` at this distance without four hexadecimal digits behind it. -/
  | unit (offset : Nat)
  deriving Repr, DecidableEq

def hexDigit? (c : Char) : Option Nat :=
  if c.isDigit || ('a' ≤ c && c ≤ 'f') || ('A' ≤ c && c ≤ 'F') then some (Text.hexDigitValue c)
  else none

/-- The unit that four hexadecimal digits write.  A text never ends with the last digit, so a fifth
character must follow. -/
def unit? : List Char → Option (Nat × List Char)
  | a :: b :: c :: d :: next :: rest =>
    match hexDigit? a, hexDigit? b, hexDigit? c, hexDigit? d with
    | some a, some b, some c, some d => some (((a * 16 + b) * 16 + c) * 16 + d, next :: rest)
    | _, _, _, _ => none
  | _ => none

/-- The character that a letter behind a backslash stands for. -/
def letter? : Char → Option Char
  | '"' => some '"'
  | '\\' => some '\\'
  | '/' => some '/'
  | 'b' => some (Char.ofNat 0x08)
  | 'f' => some (Char.ofNat 0x0C)
  | 'n' => some '\n'
  | 'r' => some '\r'
  | 't' => some '\t'
  | _ => none

def isHighSurrogate (unit : Nat) : Bool := 0xD800 ≤ unit && unit ≤ 0xDBFF

def isLowSurrogate (unit : Nat) : Bool := 0xDC00 ≤ unit && unit ≤ 0xDFFF

/-- The second half of a surrogate pair, if an escaped unit follows: its value, or the distance of
its `u` when the digits are wrong.  A sixth and a seventh character must follow the first unit. -/
def lowHalf? (offset : Nat) : List Char → Except TextProblem (Option (Nat × List Char))
  | '\\' :: 'u' :: rest =>
    if rest.length < 5 then .ok none
    else match unit? rest with
      | none => .error (.unit (offset + 1))
      | some (unit, rest) => .ok (if isLowSurrogate unit then some (unit, rest) else none)
  | _ => .ok none

/-- Reads on after the opening quote: the code points up to the closing quote, what follows it, and
the distance of that from the opening quote.  A surrogate without its other half stays as it is. -/
def decodeFrom : (fuel offset : Nat) → List Char → Except TextProblem (List Nat × List Char × Nat)
  | 0, _, _ => .error .unterminated
  | _ + 1, _, [] => .error .unterminated
  | _ + 1, offset, '"' :: rest => .ok ([], rest, offset + 1)
  | fuel + 1, offset, '\\' :: rest =>
    match rest with
    | [] => .error .unterminated
    | 'u' :: digits =>
      match unit? digits with
      | none => .error (.unit (offset + 1))
      | some (unit, rest) => do
        let low ← if isHighSurrogate unit then lowHalf? (offset + 6) rest else .ok none
        match low with
        | some (low, rest) =>
          let point := 0x10000 + (unit - 0xD800) * 0x400 + (low - 0xDC00)
          let (points, after) ← decodeFrom fuel (offset + 12) rest
          .ok (point :: points, after)
        | none =>
          let (points, after) ← decodeFrom fuel (offset + 6) rest
          .ok (unit :: points, after)
    | c :: rest =>
      match letter? c with
      | none => .error (.escape offset)
      | some letter => do
        let (points, after) ← decodeFrom fuel (offset + 2) rest
        .ok (letter.toNat :: points, after)
  | fuel + 1, offset, c :: rest =>
    if c.toNat < 0x20 then .error (.control offset)
    else do
      let (points, after) ← decodeFrom fuel (offset + 1) rest
      .ok (c.toNat :: points, after)

/-- Reads a text behind its opening quote. -/
def decode (rest : List Char) : Except TextProblem (List Nat × List Char × Nat) :=
  decodeFrom (rest.length + 1) 1 rest

end StoryRules.Json
