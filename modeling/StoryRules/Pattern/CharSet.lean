import StoryRules.Text.Alphanumeric
import StoryRules.Text.Blank
import StoryRules.Text.Digit
import StoryRules.Text.Variants

/-!
# Sets of characters

What one place of a pattern matches: code points, ranges and classes, or anything but them.  When
case is ignored a set holds a character as soon as it names one of its case variants.
-/

namespace StoryRules.Pattern

inductive CharClass where
  | digit
  | space
  | word
  deriving Repr, DecidableEq

/-- Whether a class holds a character: within ASCII, or in all of Unicode. -/
def CharClass.holds (ascii : Bool) (cls : CharClass) (c : Char) : Bool :=
  match cls with
  | .digit => if ascii then c.isDigit else (Text.digitValue? c).isSome
  | .space => if ascii then c = ' ' || (9 ≤ c.toNat && c.toNat ≤ 13) else Text.isBlank c
  | .word => c = '_' || (if ascii then c.isAlphanum else Text.isAlphanumeric c)

inductive SetItem where
  | code (n : Nat)
  | range (first last : Nat)
  | cls (kind : CharClass) (negated : Bool)
  deriving Repr, DecidableEq

/-- Whether an item names a character, given its variants. -/
def SetItem.names (ascii : Bool) (c : Char) (variants : List Nat) : SetItem → Bool
  | .code n => variants.contains n
  | .range first last => variants.any fun n => first ≤ n && n ≤ last
  | .cls kind negated => kind.holds ascii c != negated

/-- The code points that stand for a character. -/
def variantsOf (ignoreCase ascii : Bool) (c : Char) : List Nat :=
  if !ignoreCase then [c.toNat] else if ascii then Text.asciiVariants c else Text.caseVariants c

/-- Whether a set, or the rest of all characters if it is negated, holds a character. -/
def setHolds (ignoreCase ascii negated : Bool) (items : List SetItem) (c : Char) : Bool :=
  items.any (SetItem.names ascii c (variantsOf ignoreCase ascii c)) != negated

end StoryRules.Pattern
