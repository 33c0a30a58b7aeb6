import StoryRules.Datum.Display

/-!
# Unchecked operations

What a caller hands over may come with a tag that no operation has.  Such a value is kept with its
tag, so that it can be reported where it is used.
-/

namespace StoryRules

inductive Unchecked (α β : Type) where
  | known (b : β)
  /-- A value with an unknown tag. -/
  | unknown (tag : Datum α)

end StoryRules
