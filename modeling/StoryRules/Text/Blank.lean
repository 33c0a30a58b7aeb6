/-!
# Blank characters

Two classes: `isWhite` is the Unicode property White_Space, and `isBlank` adds the four
information separators U+001C to U+001F.  Texts are trimmed by either.
-/

namespace StoryRules.Text

/-- The spans of the property White_Space. -/
def whiteSpans : List (Nat × Nat) :=
  [(0x09, 0x0D), (0x20, 0x20), (0x85, 0x85), (0xA0, 0xA0), (0x1680, 0x1680), (0x2000, 0x200A),
   (0x2028, 0x2029), (0x202F, 0x202F), (0x205F, 0x205F), (0x3000, 0x3000)]

/-- The Unicode property White_Space. -/
def isWhite (c : Char) : Bool :=
  whiteSpans.any fun (first, last) => first ≤ c.toNat && c.toNat ≤ last

/-- White space, or one of the information separators. -/
def isBlank (c : Char) : Bool :=
  isWhite c || (0x1C ≤ c.toNat && c.toNat ≤ 0x1F)

/-- Drops the characters of a class at both ends. -/
def trimBoth (drop : Char → Bool) (cs : List Char) : List Char :=
  ((cs.dropWhile drop).reverse.dropWhile drop).reverse

/-- The text without blanks at its ends. -/
def strip (s : String) : String :=
  String.ofList (trimBoth isBlank s.toList)

end StoryRules.Text
