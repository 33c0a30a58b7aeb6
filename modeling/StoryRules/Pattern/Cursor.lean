import StoryRules.Pattern.Problem
import StoryRules.Pattern.Tree
import StoryRules.Table

/-!
# Reading a pattern piece by piece

A pattern is cut into tokens, a backslash together with the character behind it.  `Read` walks along
the tokens and remembers the groups met so far; a problem is placed where the walk stands, or some
characters before.
-/

namespace StoryRules.Pattern

inductive Token where
  | plain (c : Char)
  | escape (c : Char)
  /-- A backslash with nothing behind it. -/
  | dangling
  deriving Repr, DecidableEq

namespace Token

def chars : Token → List Char
  | .plain c => [c]
  | .escape c => ['\\', c]
  | .dangling => ['\\']

def text (t : Token) : String := String.ofList t.chars

def length (t : Token) : Nat := t.chars.length

def ofChars : List Char → List Token
  | [] => []
  | [c] => if c = '\\' then [.dangling] else [.plain c]
  | c :: d :: rest => if c = '\\' then .escape d :: ofChars rest else .plain c :: ofChars (d :: rest)

end Token

structure Reading where
  tokens : List Token
  offset : Nat := 0
  modes : Modes := {}
  /-- The numbers of the named groups. -/
  names : Table Nat := []
  /-- The widths of the groups, the first group first; an open group has none yet. -/
  widths : List (Option Width) := []
  /-- Inside a look behind: the number of its first group. -/
  behindFrom : Option Nat := none
  /-- The numbers that conditions refer to, each with the place of its first use. -/
  conditions : List (Nat × Nat) := []

/-- The number that the next group gets. -/
def Reading.nextGroup (r : Reading) : Nat := r.widths.length + 1

/-- The width of a group that is closed. -/
def Reading.closedWidth? (r : Reading) (number : Nat) : Option Width :=
  if number = 0 then none else (r.widths[number - 1]?).join

abbrev Read := StateT Reading (Except Failure)

namespace Read

variable {β : Type}

def failAt (problem : Problem) (offset : Nat) : Read β :=
  throw (.invalid problem (some offset))

/-- Reports a problem that starts `back` characters before the next token. -/
def fail (problem : Problem) (back : Nat) : Read β := do
  failAt problem ((← get).offset - back)

/-- A backslash at the end is refused as soon as it comes next. -/
def checkDangling : Read Unit := do
  let r ← get
  if r.tokens.head? = some .dangling then failAt .danglingEscape r.offset else return

def next? : Read (Option Token) := do return (← get).tokens.head?

def advance : Read Unit := do
  let r ← get
  match r.tokens with
  | [] => return
  | t :: rest =>
    set { r with tokens := rest, offset := r.offset + t.length }
    checkDangling

def advanceBy : Nat → Read Unit
  | 0 => return
  | n + 1 => do
    advance
    advanceBy n

def take : Read (Option Token) := do
  let t ← next?
  advance
  return t

/-- Takes a character if it comes next. -/
def accept (c : Char) : Read Bool := do
  if (← next?) = some (.plain c) then
    advance
    return true
  else return false

/-- The characters of a class that come next, at most `most`. -/
def takeRun (cls : Char → Bool) (most : Nat) : Read (List Char) := do
  let run := ((← get).tokens.take most).takeWhile fun
    | .plain c => cls c
    | _ => false
  advanceBy run.length
  return run.flatMap Token.chars

/-- Goes on to a character, which stays next; the tokens before it. -/
def skipTo (c : Char) : Read (List Token) := do
  let run := (← get).tokens.takeWhile (· ≠ .plain c)
  advanceBy run.length
  return run

/-- A name up to the character that ends it. -/
def nameUntil (terminator : Char) (what : String) : Read String := do
  let name := (← skipTo terminator).flatMap Token.chars
  if (← next?).isNone then
    if name.isEmpty then fail (.missingName what) 0
    else fail (.unterminatedName terminator.toString) name.length
  else
    advance
    if name.isEmpty then fail (.missingName what) 1
    else return String.ofList name

/-! ## Groups -/

/-- A group can be referred to once it is closed; inside a look behind only if it was opened
before. -/
def checkBehind (number : Nat) : Read Unit := do
  let r ← get
  match r.behindFrom with
  | none => return
  | some first =>
    if (r.closedWidth? number).isNone then fail .openGroup 0
    else if first ≤ number then fail .ownGroup 0
    else return

/-- A reference to a group; problems start `back` characters before. -/
def reference (number back : Nat) : Read Node := do
  match (← get).closedWidth? number with
  | none => fail .openGroup back
  | some w =>
    checkBehind number
    return .same number w

/-- Opens the next group, under a name if it has one. -/
def openGroup (name : Option String) : Read Nat := do
  let r ← get
  let number := r.nextGroup
  match name with
  | none => set { r with widths := r.widths ++ [none] }
  | some name =>
    match r.names.get? name with
    | some before => fail (.redefinedName name number before) (name.length + 1)
    | none => set { r with widths := r.widths ++ [none], names := r.names.put name number }
  return number

def closeGroup (number : Nat) (width : Width) : Read Unit :=
  modify fun r => { r with widths := r.widths.set (number - 1) (some width) }

end Read

end StoryRules.Pattern
