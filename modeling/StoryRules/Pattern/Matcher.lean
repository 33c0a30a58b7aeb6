import StoryRules.Pattern.Tree

/-!
# Matching by backtracking

A matcher gets a spot in the text and what is to be matched behind it, and answers with the spot where
all of it ends, trying its own ways in order until the rest succeeds.  Repetitions go on only while
they move: one that took nothing is the last.
-/

namespace StoryRules.Pattern

/-- A place in the text, with what the groups took on the way. -/
structure Spot where
  offset : Nat
  /-- Where each group started, the latest first. -/
  starts : List (Nat × Nat) := []
  /-- Where each group ended, the latest first. -/
  ends : List (Nat × Nat) := []
  deriving Repr, DecidableEq

/-- The offsets between which a group was taken. -/
def Spot.taken? (s : Spot) (number : Nat) : Option (Nat × Nat) :=
  match s.starts.lookup number, s.ends.lookup number with
  | some first, some last => if first ≤ last then some (first, last) else none
  | _, _ => none

abbrev Matcher := Spot → (Spot → Option Spot) → Option Spot

namespace Matcher

/-- Takes one character. -/
def one (text : Array Char) (holds : Char → Bool) : Matcher := fun s rest =>
  match text[s.offset]? with
  | some c => if holds c then rest { s with offset := s.offset + 1 } else none
  | none => none

/-- Takes nothing, where a condition holds. -/
def guard (holds : Spot → Bool) : Matcher := fun s rest => if holds s then rest s else none

/-- As often as possible, then less often, down to `least` times.  `last` is where the last
iteration beyond those started. -/
def greedy (body : Matcher) (least most : Nat) :
    (fuel : Nat) → (count : Nat) → (last : Option Nat) → Matcher
  | 0, _, _ => fun s rest => rest s
  | fuel + 1, count, last => fun s rest =>
    if count < least then
      body s fun t => greedy body least most fuel (count + 1) last t rest
    else
      let more :=
        if (count < most || most = countLimit) && last ≠ some s.offset then
          body s fun t => greedy body least most fuel (count + 1) (some s.offset) t rest
        else none
      match more with
      | some t => some t
      | none => rest s

/-- `least` times, then more often as long as the rest fails. -/
def lazy (body : Matcher) (least most : Nat) :
    (fuel : Nat) → (count : Nat) → (last : Option Nat) → Matcher
  | 0, _, _ => fun s rest => rest s
  | fuel + 1, count, last => fun s rest =>
    if count < least then
      body s fun t => lazy body least most fuel (count + 1) last t rest
    else match rest s with
      | some t => some t
      | none =>
        if (count < most || most = countLimit) && last ≠ some s.offset then
          body s fun t => lazy body least most fuel (count + 1) (some s.offset) t rest
        else none

/-- As often as possible, each time in the first way that succeeds. -/
def possessive (body : Matcher) (least most : Nat) :
    (fuel : Nat) → (count : Nat) → (last : Option Nat) → Spot → Option Spot
  | 0, _, _, s => some s
  | fuel + 1, count, last, s =>
    if count < least then
      match body s some with
      | some t => possessive body least most fuel (count + 1) last t
      | none => none
    else if (count < most || most = countLimit) && last ≠ some s.offset then
      match body s some with
      | some t => possessive body least most fuel (count + 1) (some s.offset) t
      | none => some s
    else some s

/-- A repetition; beyond the least count every iteration starts further on, so that there are no more
of them than places in the text. -/
def times (text : Array Char) (greed : Greed) (least most : Nat) (body : Matcher) : Matcher :=
  let fuel := least + text.size + 3
  match greed with
  | .greedy => greedy body least most fuel 0 none
  | .lazy => lazy body least most fuel 0 none
  | .possessive => fun s rest => (possessive body least most fuel 0 none s).bind rest

end Matcher

/-! ## Anchors and references -/

/-- Whether the character at an offset is a word character. -/
def isWordAt (text : Array Char) (ascii : Bool) (offset : Nat) : Bool :=
  match text[offset]? with
  | some c => CharClass.word.holds ascii c
  | none => false

/-- Whether the character before an offset is a word character. -/
def isWordBefore (text : Array Char) (ascii : Bool) (offset : Nat) : Bool :=
  offset > 0 && isWordAt text ascii (offset - 1)

/-- Whether an anchor holds at an offset.  A text without characters has neither boundaries nor
places that are none. -/
def Anchor.holds (text : Array Char) (modes : Modes) (offset : Nat) : Anchor → Bool
  | .caret => offset = 0 || (modes.multiline && text[offset - 1]? = some '\n')
  | .dollar =>
    offset = text.size ||
      (text[offset]? = some '\n' && (modes.multiline || offset + 1 = text.size))
  | .textStart => offset = 0
  | .textEnd => offset = text.size
  | .boundary =>
    isWordBefore text modes.ascii offset != isWordAt text modes.ascii offset
  | .noBoundary =>
    text.size > 0 && isWordBefore text modes.ascii offset == isWordAt text modes.ascii offset

/-- The form of a character in which a reference compares it. -/
def foldChar (modes : Modes) (c : Char) : Char :=
  if !modes.ignoreCase then c else if modes.ascii then c.toLower else Text.lowerChar c

/-- Whether `count` characters are the same at two offsets. -/
def sameAt (text : Array Char) (modes : Modes) : (count : Nat) → (i j : Nat) → Bool
  | 0, _, _ => true
  | count + 1, i, j =>
    match text[i]?, text[j]? with
    | some c, some d => foldChar modes c = foldChar modes d && sameAt text modes count (i + 1) (j + 1)
    | _, _ => false

/-- Takes what a group took before. -/
def Matcher.same (text : Array Char) (modes : Modes) (number : Nat) : Matcher := fun s rest =>
  match s.taken? number with
  | none => none
  | some (first, last) =>
    if sameAt text modes (last - first) first s.offset then
      rest { s with offset := s.offset + (last - first) }
    else none

/-- A look ahead, or at the `back` characters before.  What groups took inside a look that succeeds
is kept. -/
def Matcher.look (back : Nat) (negated : Bool) (body : Matcher) : Matcher := fun s rest =>
  let seen := if back ≤ s.offset then body { s with offset := s.offset - back } some else none
  match seen with
  | some t => if negated then none else rest { t with offset := s.offset }
  | none => if negated then rest s else none

/-! ## Nodes -/

namespace Node

mutual

def matcher (text : Array Char) (modes : Modes) : Node → Matcher
  | .set negated items => .one text (setHolds modes.ignoreCase modes.ascii negated items)
  | .dot => .one text fun c => modes.dotAll || c ≠ '\n'
  | .anchor a => .guard fun s => a.holds text modes s.offset
  | .group none on off body => matcherOf text (modes.changed on off) body
  | .group (some number) on off body => fun s rest =>
    matcherOf text (modes.changed on off) body
      { s with starts := (number, s.offset) :: s.starts }
      fun t => rest { t with ends := (number, t.offset) :: t.ends }
  | .atomic body => fun s rest => (matcherOf text modes body s some).bind rest
  | .times greed least most body => .times text greed least most (matcher text modes body)
  | .either branches => matcherOfAny text modes branches
  | .same number _ => .same text modes number
  | .ifTaken number yes no => fun s rest =>
    if (s.taken? number).isSome then matcherOf text modes yes s rest
    else matcherOf text modes no s rest
  | .look behind negated body =>
    .look (if behind then (widthOf body).least else 0) negated (matcherOf text modes body)

/-- One node after the other. -/
def matcherOf (text : Array Char) (modes : Modes) : List Node → Matcher
  | [] => fun s rest => rest s
  | n :: nodes => fun s rest => matcher text modes n s fun t => matcherOf text modes nodes t rest

/-- The first branch with which the rest succeeds. -/
def matcherOfAny (text : Array Char) (modes : Modes) : List (List Node) → Matcher
  | [] => fun _ _ => none
  | branch :: branches => fun s rest =>
    match matcherOf text modes branch s rest with
    | some t => some t
    | none => matcherOfAny text modes branches s rest

end

end Node

end StoryRules.Pattern
