import StoryRules.Text.Case

/-!
# Case variants

The characters that differ from a given one in case only: those with the same lower form, and those
whose lower form has the same capital.
-/

namespace StoryRules.Text

/-- Lower-case letters that share their capital. -/
def sharedCapitals : List (List Nat) :=
  [[0x69, 0x131], [0x73, 0x17F], [0xB5, 0x3BC], [0x345, 0x3B9, 0x1FBE], [0x390, 0x1FD3],
   [0x3B0, 0x1FE3], [0x3B2, 0x3D0], [0x3B5, 0x3F5], [0x3B8, 0x3D1], [0x3BA, 0x3F0],
   [0x3C0, 0x3D6], [0x3C1, 0x3F1], [0x3C2, 0x3C3], [0x3C6, 0x3D5], [0x432, 0x1C80],
   [0x434, 0x1C81], [0x43E, 0x1C82], [0x441, 0x1C83], [0x442, 0x1C84, 0x1C85], [0x44A, 0x1C86],
   [0x463, 0x1C87], [0x1C88, 0xA64B], [0x1E61, 0x1E9B], [0xFB05, 0xFB06]]

/-- The lower-case letters with the capital of the letter `n`, `n` first. -/
def sharers (n : Nat) : List Nat :=
  n :: ((sharedCapitals.find? fun letters => letters.contains n).getD []).filter (· ≠ n)

/-- The code point that a span of the lower-case table takes to `n`. -/
def raisedBy? (n : Nat) (span : Span Shift) : Option Nat :=
  let m := (n - span.value.shift : Int).toNat
  if span.first ≤ m && m ≤ span.last && (m - span.first) % span.value.stride = 0 then some m
  else none

/-- The code points whose lower form is `n`. -/
def lowersTo (n : Nat) : List Nat :=
  let raised := lowerShifts.toList.filterMap (raisedBy? n)
  if (lowerChar (Char.ofNat n)).toNat = n then n :: raised else raised

/-- The code points that match a character when case is ignored. -/
def caseVariants (c : Char) : List Nat :=
  (sharers (lowerChar c).toNat).flatMap lowersTo

/-- The same within ASCII; other characters match themselves only. -/
def asciiVariants (c : Char) : List Nat :=
  if c.isUpper then [c.toNat, c.toNat + 32]
  else if c.isLower then [c.toNat, c.toNat - 32]
  else [c.toNat]

end StoryRules.Text
