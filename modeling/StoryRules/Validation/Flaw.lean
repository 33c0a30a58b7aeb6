/-!
# Flaws of a story

A flaw is something wrong in a well-formed story document, and where.  Most flaws are errors; those
that only make a story suspicious are warnings.
-/

namespace StoryRules

/-- Where in a story a flaw is. -/
inductive Place where
  | node (id : String)
  | onEnter (node : String)
  | choice (node : String) (index : Nat)
  | choiceEffects (node : String) (index : Nat)
  | puzzle (id : String)
  | variant (puzzle : Place) (index : Nat)
  /-- The outcome of a success or a failure. -/
  | outcome (puzzle : Place) (success : Bool)
  | outcomeEffects (puzzle : Place) (success : Bool)
  deriving Repr, DecidableEq

def outcomeName (success : Bool) : String := if success then "success" else "failure"

def Place.text : Place → String
  | .node id => "Node '" ++ id ++ "'"
  | .onEnter owner => "Node '" ++ owner ++ "' on_enter"
  | .choice owner index => "Node '" ++ owner ++ "' choices[" ++ toString index ++ "]"
  | .choiceEffects owner index =>
    "Node '" ++ owner ++ "' choices[" ++ toString index ++ "] effects"
  | .puzzle id => "Puzzle '" ++ id ++ "'"
  | .variant owner index => owner.text ++ " variants[" ++ toString index ++ "]"
  | .outcome owner success => owner.text ++ " " ++ outcomeName success
  | .outcomeEffects owner success => owner.text ++ " " ++ outcomeName success ++ " effects"

/-- A flaw holds the numbers that it names as they are written. -/
inductive Flaw where
  | fieldMissing (name : String)
  | noNodes
  | duplicate (kind id : String)
  | boundsReversed (stat low high : String)
  | startOutside (stat start low high : String)
  | undefinedAsset (place : Place) (id : String)
  | undefinedItem (place : Place) (id : String)
  | undefinedStat (place : Place) (id : String)
  | undeclaredCurrency (place : Place) (id : String)
  | unknownNode (place : Place) (id : String)
  | unknownGoto (place : Place) (id : String)
  | endingWithChoices (node : String)
  /-- A choice that leads back to its node and changes nothing. -/
  | idleLoop (node : String)
  /-- A choice of an unknown node is locked or unlocked. -/
  | unknownLockNode (place : Place) (op node : String)
  | lockOutOfRange (place : Place) (op index node : String)
  | emptyLoot (place : Place)
  | requiredItem (place : Place) (id : String)
  | requiredStat (place : Place) (id : String)
  | requiredCurrency (place : Place) (id : String)
  | requiredNode (place : Place) (id : String)
  | requiredPuzzle (place : Place) (id : String)
  | badPattern (place : Place) (message : String)
  | hintCurrency (place : Place) (id : String)
  | variantRenames (place : Place)
  | variantInvalid (place : Place) (problems : Nat)
  | unreferenced (node : String)
  /-- Entry effects that jump in a circle. -/
  | redirectCycle (nodes : List String)
  deriving Repr, DecidableEq

namespace Flaw

/-- Whether a story with this flaw can still be played. -/
def isWarning : Flaw → Bool
  | .undeclaredCurrency .. | .emptyLoot _ | .requiredCurrency .. | .requiredPuzzle .. => true
  | .hintCurrency .. | .unreferenced _ | .redirectCycle _ => true
  | _ => false

def text : Flaw → String
  | .fieldMissing name => "Missing required field: " ++ name
  | .noNodes => "Story must have at least one node"
  | .duplicate kind id => "Duplicate " ++ kind ++ " ID: " ++ id
  | .boundsReversed stat low high =>
    "Stat '" ++ stat ++ "' has min " ++ low ++ " greater than max " ++ high
  | .startOutside stat start low high =>
    "Stat '" ++ stat ++ "' start " ++ start ++ " is outside [" ++ low ++ ", " ++ high ++ "]"
  | .undefinedAsset place id => place.text ++ " references undefined asset: " ++ id
  | .undefinedItem place id => place.text ++ " references undefined item: " ++ id
  | .undefinedStat place id => place.text ++ " references undefined stat: " ++ id
  | .undeclaredCurrency place id => place.text ++ " uses undeclared currency: " ++ id
  | .unknownNode place id => place.text ++ " references unknown node '" ++ id ++ "'"
  | .unknownGoto place id => place.text ++ " goto references unknown node '" ++ id ++ "'"
  | .endingWithChoices node => "Ending node '" ++ node ++ "' should not have choices"
  | .idleLoop node =>
    "Node '" ++ node ++ "' has infinite loop choice without puzzle or effects"
  | .unknownLockNode place op node =>
    place.text ++ " " ++ op ++ " references unknown node '" ++ node ++ "'"
  | .lockOutOfRange place op index node =>
    place.text ++ " " ++ op ++ " index " ++ index ++ " is out of range for node '" ++ node ++ "'"
  | .emptyLoot place => place.text ++ " has a loot table with no positive weight"
  | .requiredItem place id => place.text ++ " requirement references undefined item: " ++ id
  | .requiredStat place id => place.text ++ " requirement references undefined stat: " ++ id
  | .requiredCurrency place id => place.text ++ " requirement uses undeclared currency: " ++ id
  | .requiredNode place id =>
    place.text ++ " requirement references unknown node '" ++ id ++ "'"
  | .requiredPuzzle place id =>
    place.text ++ " requirement references unknown puzzle '" ++ id ++ "'"
  | .badPattern place message => place.text ++ " has an invalid regex: " ++ message
  | .hintCurrency place id => place.text ++ " hint cost uses undeclared currency: " ++ id
  | .variantRenames place => place.text ++ " override must not change the puzzle id"
  | .variantInvalid place problems =>
    place.text ++ " override is invalid: " ++ toString problems ++ " problem(s)"
  | .unreferenced node =>
    "Node '" ++ node ++ "' is not referenced by any choice, outcome or goto"
  | .redirectCycle nodes =>
    "on_enter redirect cycle detected: " ++
      String.intercalate " -> " (nodes ++ nodes.head?.toList)

end Flaw

end StoryRules
