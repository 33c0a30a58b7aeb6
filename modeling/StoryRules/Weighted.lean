/-!
# Weighted items

One of several things to draw from, with the weight of its chance.
-/

namespace StoryRules

structure Weighted (α β : Type) where
  weight : α
  item : β

end StoryRules
