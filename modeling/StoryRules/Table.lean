/-!
# Tables

A table maps texts to values and lists its entries in the order in which the keys first arrived.
Writing to a key that is present keeps its place.
-/

namespace StoryRules

abbrev Table (β : Type) := List (String × β)

namespace Table

variable {β γ : Type}

def get? (t : Table β) (key : String) : Option β :=
  (t.find? fun entry => entry.1 = key).map Prod.snd

def has (t : Table β) (key : String) : Bool :=
  t.any fun entry => entry.1 = key

def keys (t : Table β) : List String := t.map Prod.fst

def values (t : Table β) : List β := t.map Prod.snd

/-- Writes a value, at the place of the key or at the end. -/
def put : Table β → String → β → Table β
  | [], key, value => [(key, value)]
  | entry :: rest, key, value =>
    if entry.1 = key then (key, value) :: rest else entry :: put rest key value

/-- Writes all entries of `u` over `t`, in order. -/
def overlay (t u : Table β) : Table β :=
  u.foldl (fun t entry => t.put entry.1 entry.2) t

/-- The table of some entries; of two entries with one key the later wins, at the place of the
earlier. -/
def ofEntries (entries : List (String × β)) : Table β :=
  overlay [] entries

def mapValues (f : β → γ) (t : Table β) : Table γ :=
  t.map fun entry => (entry.1, f entry.2)

end Table

end StoryRules
