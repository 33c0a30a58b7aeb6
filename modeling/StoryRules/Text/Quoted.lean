import StoryRules.Text.Printable

/-!
# Quoted texts

A text in messages stands between single quotes, or between double quotes when it holds a single
quote and no double quote.  Characters that do not print are written by their code points.
-/

namespace StoryRules.Text

/-- `n` in hexadecimal, with zeros in front up to `width` digits. -/
def hexText (width n : Nat) : String :=
  let digits := Nat.toDigits 16 n
  String.ofList (List.replicate (width - digits.length) '0' ++ digits)

/-- One character of a quoted text. -/
def quoteChar (quote c : Char) : String :=
  if c = quote || c = '\\' then String.ofList ['\\', c]
  else if c = '\n' then "\\n"
  else if c = '\r' then "\\r"
  else if c = '\t' then "\\t"
  else if isPrintable c then c.toString
  else if c.toNat < 0x100 then "\\x" ++ hexText 2 c.toNat
  else if c.toNat < 0x10000 then "\\u" ++ hexText 4 c.toNat
  else "\\U" ++ hexText 8 c.toNat

/-- The text between quotes. -/
def quoted (s : String) : String :=
  let quote := if s.contains '\'' && !s.contains '"' then '"' else '\''
  quote.toString ++ String.join (s.toList.map (quoteChar quote)) ++ quote.toString

end StoryRules.Text
