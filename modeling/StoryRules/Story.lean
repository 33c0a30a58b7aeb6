import StoryRules.Media
import StoryRules.Puzzle
import StoryRules.Requirement

/-!
# Stories

A story is metadata, catalogs (assets, items, currencies, stats) and an ordered list of nodes; play
starts at the first.  Where an id is defined twice the first definition counts.
-/

namespace StoryRules

/-- An inventory item.  Items that do not stack are held at most once; those that do are held up to
`maxStack` where it is set. -/
structure Item where
  id : String
  name : String
  type : String
  stackable : Bool
  maxStack : Option Int
  icon : Option String
  desc : Option String

structure Currency where
  id : String
  name : String
  symbol : Option String

/-- A stat with its bounds. -/
structure Stat (α : Type) where
  id : String
  name : String
  min : α
  max : α
  start : α

/-- A way from one node to another. -/
structure Choice (α : Type) where
  label : String
  next : String
  requirement : Option (Requirement α)
  effects : List (Effect α)
  disabledReason : Option String

/-- One beat of the narrative. -/
structure Node (α : Type) where
  id : String
  part : Int
  isEnding : Bool
  title : String
  text : String
  media : List MediaRef
  /-- Effects on entry; a node may also say nothing of entry. -/
  onEnter : Option (List (Effect α))
  puzzle : Option (Puzzle α)
  choices : List (Choice α)

structure Story (α : Type) where
  title : String
  language : String
  version : String
  assets : List (MediaAsset α)
  items : List Item
  currencies : List Currency
  stats : List (Stat α)
  nodes : List (Node α)

variable {α : Type}

def Node.onEnterEffects (n : Node α) : List (Effect α) := n.onEnter.getD []

namespace Story

def firstNode? (s : Story α) : Option (Node α) := s.nodes.head?

def node? (s : Story α) (id : String) : Option (Node α) := s.nodes.find? fun n => n.id = id

def item? (s : Story α) (id : String) : Option Item := s.items.find? fun i => i.id = id

def stat? (s : Story α) (id : String) : Option (Stat α) := s.stats.find? fun t => t.id = id

def currency? (s : Story α) (id : String) : Option Currency :=
  s.currencies.find? fun c => c.id = id

def asset? (s : Story α) (id : String) : Option (MediaAsset α) :=
  s.assets.find? fun a => a.id = id

/-- The puzzles, each with its node, in node order. -/
def puzzles (s : Story α) : List (Node α × Puzzle α) :=
  s.nodes.filterMap fun n => n.puzzle.map fun p => (n, p)

end Story

end StoryRules
