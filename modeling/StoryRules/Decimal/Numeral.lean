import StoryRules.Decimal.Binary

/-!
# Numerals

Reading numbers from text.  A run of digits may have single underscores between its digits.  A real
numeral is a sign, a run of digits with a point somewhere or none, and an exponent; or a sign and
`inf`, `infinity` or `nan` in any case.  Which characters are digits is a parameter.
-/

namespace StoryRules.Decimal

/-- Digits of the ASCII range. -/
def asciiDigit? (c : Char) : Option Nat :=
  if c.isDigit then some (c.toNat - 48) else none

variable (digit? : Char → Option Nat)

/-- The digits at the front of a text, and the rest.  An underscore is skipped between digits. -/
def takeDigits : List Char → List Nat × List Char
  | [] => ([], [])
  | [c] => match digit? c with
    | some d => ([d], [])
    | none => ([], [c])
  | c :: next :: rest =>
    match digit? c with
    | none => ([], c :: next :: rest)
    | some d =>
      if next = '_' then
        match rest with
        | after :: _ =>
          if (digit? after).isSome then
            let (ds, left) := takeDigits rest
            (d :: ds, left)
          else ([d], next :: rest)
        | [] => ([d], next :: rest)
      else
        let (ds, left) := takeDigits (next :: rest)
        (d :: ds, left)

/-- The natural number with these decimal digits. -/
def ofDigits (digits : List Nat) : Nat :=
  digits.foldl (fun n d => n * 10 + d) 0

/-- A sign at the front (`true` for minus), and the rest. -/
def takeSign : List Char → Bool × List Char
  | '-' :: rest => (true, rest)
  | '+' :: rest => (false, rest)
  | cs => (false, cs)

/-- The exponent of a numeral: nothing, or `e` with a signed run of digits up to the end. -/
def exponent? : List Char → Option Int
  | [] => some 0
  | c :: rest =>
    if c = 'e' || c = 'E' then
      let (negative, rest) := takeSign rest
      match takeDigits digit? rest with
      | ([], _) => none
      | (ds, []) => some (if negative then -(ofDigits ds : Int) else ofDigits ds)
      | (_, _ :: _) => none
    else none

/-- The value of a numeral without sign. -/
def unsigned? (cs : List Char) : Option Float :=
  let (whole, rest) := takeDigits digit? cs
  let (fraction, rest) := match rest with
    | '.' :: after => takeDigits digit? after
    | rest => ([], rest)
  if whole.isEmpty && fraction.isEmpty then none
  else (exponent? digit? rest).map fun exponent =>
    (Scientific.mk (ofDigits (whole ++ fraction)) (exponent - fraction.length)).toFloat

/-- The value of a real numeral. -/
def real? (s : String) : Option Float :=
  let (negative, cs) := takeSign s.toList
  let word := String.ofList (cs.map Char.toLower)
  let value :=
    if word = "inf" || word = "infinity" then some (1.0 / 0.0)
    else if word = "nan" then some (0.0 / 0.0)
    else unsigned? digit? cs
  value.map fun x => if negative then -x else x

/-- The value of a whole numeral of at most `most` digits. -/
def whole? (most : Nat) (s : String) : Option Int :=
  let (negative, cs) := takeSign s.toList
  match takeDigits digit? cs with
  | (d :: ds, []) =>
    if (d :: ds).length ≤ most then
      some (if negative then -(ofDigits (d :: ds) : Int) else ofDigits (d :: ds))
    else none
  | _ => none

end StoryRules.Decimal
