import StoryRules.Story

/-!
# Metadata of a story

What a story says of itself, and how much it holds.
-/

namespace StoryRules

structure Metadata where
  title : String
  language : String
  version : String
  nodes : Nat
  assets : Nat
  items : Nat
  currencies : Nat
  stats : Nat
  puzzles : Nat
  endings : Nat
  /-- The names of the kinds of puzzle, each once, in alphabetical order. -/
  puzzleKinds : List String
  deriving Repr, DecidableEq

def Story.metadata {α : Type} (s : Story α) : Metadata :=
  { title := s.title
    language := s.language
    version := s.version
    nodes := s.nodes.length
    assets := s.assets.length
    items := s.items.length
    currencies := s.currencies.length
    stats := s.stats.length
    puzzles := s.puzzles.length
    endings := (s.nodes.filter (·.isEnding)).length
    puzzleKinds :=
      ((s.puzzles.map (·.2.kind.name)).eraseDups).mergeSort fun a b => !(b < a) }

end StoryRules
