/-!
# Feeds

An endless supply of values, handed out one at a time: the draws of a random source, the readings
of a clock, the scorers of answers.
-/

namespace StoryRules

structure Feed (β : Type) where
  /-- The value handed out after `n` others. -/
  value : Nat → β
  /-- How many were handed out. -/
  used : Nat := 0

namespace Feed

variable {β : Type}

/-- The next value, and the feed without it. -/
def next (f : Feed β) : β × Feed β :=
  (f.value f.used, { f with used := f.used + 1 })

/-- Always the same value. -/
def always (b : β) : Feed β := ⟨fun _ => b, 0⟩

/-- A value stands for the feed that hands out nothing else. -/
instance : Coe β (Feed β) := ⟨always⟩

/-- The values of a list in turn, again and again. -/
def cycle (first : β) (rest : List β) : Feed β :=
  ⟨fun n => (first :: rest).get ⟨n % (first :: rest).length, Nat.mod_lt _ (by simp)⟩, 0⟩

end Feed

end StoryRules
