import StoryRules.Pattern.CharSet

/-!
# Pattern trees

A pattern is a sequence of nodes.  Every node knows how many characters it takes at least and at
most (`Node.width`), which is what a look behind needs to know where to start.
-/

namespace StoryRules.Pattern

/-- Switches that change how a pattern is read and matched. -/
structure Modes where
  ignoreCase : Bool := false
  /-- Lines have a start and an end of their own. -/
  multiline : Bool := false
  /-- The dot takes line ends, too. -/
  dotAll : Bool := false
  /-- Blanks and comments in the pattern are skipped. -/
  verbose : Bool := false
  /-- Classes and case are those of ASCII. -/
  ascii : Bool := false
  /-- Classes and case are those of Unicode; this is also the default. -/
  unicode : Bool := false
  /-- Repetitions are refused. -/
  plain : Bool := false
  deriving Repr, DecidableEq

namespace Modes

def union (m n : Modes) : Modes :=
  ⟨m.ignoreCase || n.ignoreCase, m.multiline || n.multiline, m.dotAll || n.dotAll,
    m.verbose || n.verbose, m.ascii || n.ascii, m.unicode || n.unicode, m.plain || n.plain⟩

def without (m n : Modes) : Modes :=
  ⟨m.ignoreCase && !n.ignoreCase, m.multiline && !n.multiline, m.dotAll && !n.dotAll,
    m.verbose && !n.verbose, m.ascii && !n.ascii, m.unicode && !n.unicode, m.plain && !n.plain⟩

def isEmpty (m : Modes) : Bool := m = {}

/-- Whether some mode is on in both. -/
def meets (m n : Modes) : Bool := m.without n ≠ m

/-- The modes inside a group that turns some on and some off; a choice of alphabet replaces the one
before. -/
def changed (m on off : Modes) : Modes :=
  let m := if on.ascii || on.unicode then { m with ascii := false, unicode := false } else m
  (m.union on).without off

end Modes

/-- A place between two characters. -/
inductive Anchor where
  /-- The start of the text or, in lines, of a line. -/
  | caret
  /-- The end of the text, before a last line end, or, in lines, the end of a line. -/
  | dollar
  | textStart
  | textEnd
  /-- Between a word character and something else. -/
  | boundary
  | noBoundary
  deriving Repr, DecidableEq

/-- How a repetition chooses its count. -/
inductive Greed where
  | greedy
  | lazy
  /-- As many as possible, and never fewer afterwards. -/
  | possessive
  deriving Repr, DecidableEq

/-- How many characters are taken at least and at most. -/
structure Width where
  least : Nat
  most : Nat
  deriving Repr, DecidableEq

namespace Width

/-- No text is as long as this. -/
def limit : Nat := 0x10000000000000000

def zero : Width := ⟨0, 0⟩

def add (a b : Width) : Width := ⟨a.least + b.least, a.most + b.most⟩

def either (a b : Width) : Width := ⟨min a.least b.least, max a.most b.most⟩

def capped (a : Width) : Width := ⟨min a.least limit, min a.most limit⟩

end Width

/-- A repetition without upper bound counts as this many. -/
def countLimit : Nat := 0xFFFFFFFF

inductive Node where
  | set (negated : Bool) (items : List SetItem)
  /-- Any character but a line end. -/
  | dot
  | anchor (a : Anchor)
  /-- A group, with its number if it captures, and the modes that it turns on and off. -/
  | group (number : Option Nat) (on off : Modes) (body : List Node)
  /-- A group that is left with its first match only. -/
  | atomic (body : List Node)
  | times (greed : Greed) (least most : Nat) (body : Node)
  | either (branches : List (List Node))
  /-- What a group took before; the width is the group's. -/
  | same (number : Nat) (width : Width)
  /-- One of two, as a group took part or not. -/
  | ifTaken (number : Nat) (yes : List Node) (no : List Node)
  /-- A look at what follows, or at what came before. -/
  | look (behind negated : Bool) (body : List Node)

namespace Node

/-- The character with a code point. -/
def code (n : Nat) : Node := .set false [.code n]

def isRepetition : Node → Bool
  | .times .. => true
  | _ => false

def isAnchor : Node → Bool
  | .anchor _ => true
  | _ => false

mutual

def width : Node → Width
  | .set .. | .dot => ⟨1, 1⟩
  | .anchor _ | .look .. => .zero
  | .group _ _ _ body => widthOf body
  | .atomic body => widthOf body
  | .times _ least most body =>
    let w := width body
    ⟨w.least * least,
      if most = countLimit && w.most ≠ 0 then Width.limit else w.most * most⟩
  | .either branches => widthOfAny branches
  | .same _ w => w
  | .ifTaken _ yes no => (widthOf yes).either (widthOf no)

def widthFrom (w : Width) : List Node → Width
  | [] => w
  | n :: rest => widthFrom (w.add (width n)) rest

def widthOf (nodes : List Node) : Width := (widthFrom .zero nodes).capped

def widthOfAny : List (List Node) → Width
  | [] => ⟨Width.limit, 0⟩
  | branch :: rest => (widthOf branch).either (widthOfAny rest)

end

end Node

end StoryRules.Pattern
