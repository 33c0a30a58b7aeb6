import StoryRules.Pattern.Cursor
import StoryRules.Text.Span

/-!
# Escapes

A backslash and what follows it: a class, an anchor, a reference to a group, or one character given
by a letter, by its code in hexadecimal or in octal, or by itself.
-/

namespace StoryRules.Pattern

open Read

def isHexDigit (c : Char) : Bool :=
  c.isDigit || ('a' ≤ c && c ≤ 'f') || ('A' ≤ c && c ≤ 'F')

def isOctalDigit (c : Char) : Bool := '0' ≤ c && c ≤ '7'

/-- The number that digits write in a base. -/
def valueIn (base : Nat) (digits : List Char) : Nat :=
  digits.foldl (fun n c => n * base + Text.hexDigitValue c) 0

/-- Classes by their letter; a capital is the opposite. -/
def classLetter? : Char → Option SetItem
  | 'd' => some (.cls .digit false)
  | 'D' => some (.cls .digit true)
  | 's' => some (.cls .space false)
  | 'S' => some (.cls .space true)
  | 'w' => some (.cls .word false)
  | 'W' => some (.cls .word true)
  | _ => none

def anchorLetter? : Char → Option Anchor
  | 'A' => some .textStart
  | 'Z' => some .textEnd
  | 'b' => some .boundary
  | 'B' => some .noBoundary
  | _ => none

/-- Control characters by their letter. -/
def controlLetter? : Char → Option Nat
  | 'a' => some 7
  | 'b' => some 8
  | 't' => some 9
  | 'n' => some 10
  | 'v' => some 11
  | 'f' => some 12
  | 'r' => some 13
  | '\\' => some 92
  | _ => none

/-- How many hexadecimal digits follow a letter. -/
def hexLength? : Char → Option Nat
  | 'x' => some 2
  | 'u' => some 4
  | 'U' => some 8
  | _ => none

/-- The text of an escape. -/
def escapeText (c : Char) (digits : List Char) : String := String.ofList ('\\' :: c :: digits)

/-- A problem with the escape that was just read. -/
def failEscape {β : Type} (problem : String → Problem) (c : Char) (digits : List Char) : Read β :=
  fail (problem (escapeText c digits)) (digits.length + 2)

/-- A character by a fixed number of hexadecimal digits. -/
def hexEscape (c : Char) (count : Nat) : Read Nat := do
  let digits ← takeRun isHexDigit count
  if digits.length ≠ count then failEscape .incompleteEscape c digits
  else
    let n := valueIn 16 digits
    if n > 0x10FFFF then failEscape .badEscape c digits else return n

/-- Names of characters are not known here. -/
def namedEscape : Read Nat := do
  if ← accept '{' then
    let name ← nameUntil '}' "character name"
    fail (.unknownCharacter name) (name.length + 4)
  else fail .missingBrace 0

/-- A character by its code in octal, at most one byte. -/
def octalCode (c : Char) (digits : List Char) : Read Nat := do
  let n := valueIn 8 (c :: digits)
  if n > 0o377 then failEscape .octalTooLarge c digits else return n

/-- A character by code or by itself; letters and digits do not stand for themselves. -/
def charEscape (c : Char) : Read Nat := do
  match hexLength? c with
  | some count => hexEscape c count
  | none =>
    if c = 'N' then namedEscape
    else if c.isAlphanum then failEscape .badEscape c []
    else return c.toNat

/-- An escape inside a set. -/
def setEscape (c : Char) : Read SetItem := do
  match controlLetter? c, classLetter? c with
  | some n, _ => return .code n
  | none, some item => return item
  | none, none =>
    if isOctalDigit c then
      let digits ← takeRun isOctalDigit 2
      return .code (← octalCode c digits)
    else return .code (← charEscape c)

/-- A number that starts with a digit other than zero: three octal digits are a character, anything
else refers to a group. -/
def numberEscape (c : Char) : Read Node := do
  let second ← takeRun Char.isDigit 1
  let third ←
    if isOctalDigit c && second.all isOctalDigit && !second.isEmpty then takeRun isOctalDigit 1
    else pure []
  let digits := second ++ third
  if !third.isEmpty then return .code (← octalCode c digits)
  else
    let number := valueIn 10 (c :: digits)
    if number < (← get).nextGroup then reference number (digits.length + 2)
    else fail (.unknownGroup number) (digits.length + 1)

/-- An escape outside of sets. -/
def escape (c : Char) : Read Node := do
  match anchorLetter? c, classLetter? c, controlLetter? c with
  | some a, _, _ => return .anchor a
  | none, some item, _ => return .set false [item]
  | none, none, some n => return .code n
  | none, none, none =>
    if c = '0' then
      let digits ← takeRun isOctalDigit 2
      return .code (valueIn 8 digits)
    else if c.isDigit then numberEscape c
    else return .code (← charEscape c)

end StoryRules.Pattern
