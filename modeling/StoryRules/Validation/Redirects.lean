import StoryRules.Story
import StoryRules.Validation.Flaw

/-!
# Redirects

A node whose entry effects jump without condition redirects to the target of its first jump.  A jump
inside a loot table is a chance and does not count.  Redirects that lead in a circle are found by
following them from every node.
-/

namespace StoryRules

variable {α : Type}

/-- The target of the first jump at the top of a list. -/
def Effect.firstGoto? : List (Effect α) → Option String
  | [] => none
  | .goto target :: _ => some target
  | _ :: rest => firstGoto? rest

namespace Story

/-- The node that entering a node certainly leads to, if it exists. -/
def redirect? (s : Story α) (n : Node α) : Option String :=
  match Effect.firstGoto? n.onEnterEffects with
  | some target => if (s.node? target).isSome then some target else none
  | none => none

/-- The redirects of all nodes. -/
def redirects (s : Story α) : Table String :=
  Table.ofEntries (s.nodes.filterMap fun n => (s.redirect? n).map fun target => (n.id, target))

end Story

namespace Redirects

/-- Follows redirects until they end or come back; the nodes on the way, and the node at which they
come back. -/
def follow (redirects : Table String) :
    (fuel : Nat) → (path : List String) → (current : String) → List String × Option String
  | 0, path, _ => (path, none)
  | fuel + 1, path, current =>
    if path.contains current then (path, some current)
    else match redirects.get? current with
      | none => (path, none)
      | some next => follow redirects fuel (path ++ [current]) next

/-- The circle that redirects from a node run into, from where it is first met. -/
def cycleFrom? (redirects : Table String) (start : String) : Option (List String) :=
  match follow redirects (redirects.length + 1) [] start with
  | (path, some node) => some (path.dropWhile (· ≠ node))
  | (_, none) => none

/-- Each circle once, in the order of the least node that leads to it. -/
def cyclesFrom (redirects : Table String) (found : List (List String)) :
    List String → List (List String)
  | [] => found
  | start :: rest =>
    match cycleFrom? redirects start with
    | some cycle =>
      if cycle.any fun node => found.any (·.contains node) then cyclesFrom redirects found rest
      else cyclesFrom redirects (found ++ [cycle]) rest
    | none => cyclesFrom redirects found rest

def cycles (redirects : Table String) : List (List String) :=
  cyclesFrom redirects [] (redirects.keys.mergeSort fun a b => !(b < a))

end Redirects

end StoryRules
