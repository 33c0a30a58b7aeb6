/-!
# Tables of code points

A property of characters is kept as ascending, disjoint spans of code points, each with a value,
and is looked up by halving.  Tables are written as text: `first-last=value` or `first=value`, the
code points in hexadecimal, with blanks or line feeds between the entries.
-/

namespace StoryRules.Text

/-- The code points `first` to `last`, both included, with what the table says of them. -/
structure Span (β : Type) where
  first : Nat
  last : Nat
  value : β

abbrev Spans (β : Type) := Array (Span β)

/-- The value of one hexadecimal digit; other characters count as zero. -/
def hexDigitValue (c : Char) : Nat :=
  if c.isDigit then c.toNat - 48
  else if 'A' ≤ c ∧ c ≤ 'F' then c.toNat - 55
  else if 'a' ≤ c ∧ c ≤ 'f' then c.toNat - 87
  else 0

/-- The value of a hexadecimal numeral. -/
def hexValue (numeral : String) : Nat :=
  numeral.foldl (fun n c => n * 16 + hexDigitValue c) 0

/-- Reads one entry, with `read` for the part after the equals sign. -/
def Span.ofText {β : Type} (read : String → β) (entry : String) : Span β :=
  match entry.splitOn "=" with
  | [] => ⟨0, 0, read ""⟩
  | points :: rest =>
    let value := read (String.intercalate "=" rest)
    match points.splitOn "-" with
    | [first, last] => ⟨hexValue first, hexValue last, value⟩
    | _ => ⟨hexValue points, hexValue points, value⟩

/-- Reads a table. -/
def Spans.ofText {β : Type} (read : String → β) (text : String) : Spans β :=
  let entries := (text.splitOn "\n").flatMap fun line => line.splitOn " "
  ((entries.filter (· ≠ "")).map (Span.ofText read)).toArray

/-- Searches the entries from `lo` up to `hi` for the span that holds `n`, halving each time. -/
def Spans.search {β : Type} (s : Spans β) (n lo hi : Nat) : Option (Span β) :=
  if lo < hi then
    let mid := lo + (hi - lo) / 2
    match s[mid]? with
    | none => none
    | some span =>
      if n < span.first then s.search n lo mid
      else if span.last < n then s.search n (mid + 1) hi
      else some span
  else none
termination_by hi - lo

/-- The span that holds code point `n`. -/
def Spans.find? {β : Type} (s : Spans β) (n : Nat) : Option (Span β) :=
  s.search n 0 s.size

/-- Whether some span holds the character. -/
def Spans.holds {β : Type} (s : Spans β) (c : Char) : Bool :=
  (s.find? c.toNat).isSome

/-- A table without values. -/
def Spans.plain (text : String) : Spans Unit :=
  Spans.ofText (fun _ => ()) text

end StoryRules.Text
