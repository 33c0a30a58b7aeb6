import StoryRules.Engine.Game
import StoryRules.Puzzle.Document

/-!
# Entering nodes

Entering a node applies its entry effects.  If they ask for a jump the target is entered instead, as
often in a row as the settings allow; otherwise the game stands at the node, and its puzzle, with a
variant drawn, is in play.
-/

namespace StoryRules

variable {α : Type} [Number α]

namespace Play

/-- The puzzle with a drawn variant.  Progress goes by the puzzle's own id. -/
def drawVariant (p : Puzzle α) : Play α (Puzzle α) := do
  if p.variants.isEmpty then return p
  else match ← draw (p.variants.map Weighted.weight) with
    | none => return p
    | some i => match p.variants[i]? with
      | none => return p
      | some v => match p.withVariant v with
        | .bad _ =>
          log (.variantInvalid p.id)
          return p
        | .ok q =>
          if q.id = p.id then return q
          else
            log (.variantRenames p.id q.id)
            return { q with id := p.id }

/-- Puts a puzzle in play, if there is one. -/
def bringUp : Option (Puzzle α) → Play α Unit
  | none => return
  | some p => do
    let q ← drawVariant p
    modify fun g => { g with active := some q }
    emit (.puzzleStarted q)

/-- What happens at a node that is not left again at once. -/
def arrive (n : Node α) : Play α Unit := do
  log (.nodeEntered n.id)
  emit (.nodeEntered n)
  emitState
  if n.isEnding then emit (.gameEnded n)
  bringUp n.puzzle

/-- Moves the game to a node. -/
def moveTo (n : Node α) : Play α Unit :=
  modify fun g =>
    { g with state := { g.state.visit n.id with currentNode := n.id }, active := none }

/-- Applies the entry effects of a node; the jump they ask for. -/
def entryTarget (setup : Setup α) (n : Node α) : Play α (Option String) := do
  if n.onEnterEffects.isEmpty then return none
  else
    let report ← applyEffects setup n.onEnterEffects
    return report.goto

/-- Enters a node, following at most `left` redirects; whether there is such a node. -/
def enter (setup : Setup α) (left : Nat) (id : String) : Play α Bool := do
  match setup.story.node? id with
  | none =>
    log (.nodeMissing id)
    return false
  | some n =>
    moveTo n
    match ← entryTarget setup n with
    | none =>
      arrive n
      return true
    | some target =>
      if (setup.story.node? target).isNone then
        log (.entryJumpMissing n.id target)
        arrive n
        return true
      else match left with
        | 0 =>
          log (.redirectLimit setup.config.maxRedirectDepth n.id target)
          arrive n
          return true
        | left + 1 =>
          log (.redirected n.id target)
          enter setup left target

/-- Enters a node, following as many redirects as the settings allow. -/
def enterNode (setup : Setup α) (id : String) : Play α Bool :=
  enter setup setup.config.maxRedirectDepth.toNat id

end Play

end StoryRules
