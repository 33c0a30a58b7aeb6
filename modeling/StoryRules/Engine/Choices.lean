import StoryRules.Engine.Entry
import StoryRules.Requirement.Evaluate

/-!
# Choices

A choice of the current node can be taken if it is not locked, if no puzzle gates it and if its
requirement is met, looked at in this order.  Taking it applies its effects and enters its target, or
the node that the effects jump to.
-/

namespace StoryRules

variable {α : Type} [Number α]

/-- Whether a choice can be taken, and if not, why. -/
structure Availability (α : Type) where
  choice : Choice α
  index : Nat
  available : Bool
  reason : Option String := none
  warnings : List String := []

namespace Availability

def locked (c : Choice α) (index : Nat) : Availability α :=
  { choice := c, index, available := false, reason := some "This choice is locked" }

def gated (c : Choice α) (index : Nat) : Availability α :=
  { choice := c, index, available := false, reason := some "puzzle must be solved" }

/-- What the requirement of a choice says. -/
def required (s : State α) (c : Choice α) (index : Nat) : Availability α :=
  let (met, warnings) := Requirement.evaluate? s c.requirement
  { choice := c, index, available := met, reason := if met then none else c.disabledReason,
    warnings }

end Availability

/-- Whether a node's puzzle holds its choices back. -/
def Node.isGated (n : Node α) (s : State α) : Bool :=
  match n.puzzle with
  | some p => p.gatesChoices && !s.isSolved p.id
  | none => false

/-- Whether a choice at a position of a node can be taken. -/
def Node.availability (n : Node α) (s : State α) (index : Nat) (c : Choice α) : Availability α :=
  if s.isLocked n.id index then .locked c index
  else if n.isGated s then .gated c index
  else .required s c index

/-- The choices from a position on. -/
def Node.availabilitiesFrom (n : Node α) (s : State α) :
    (index : Nat) → List (Choice α) → List (Availability α)
  | _, [] => []
  | index, c :: rest => n.availability s index c :: availabilitiesFrom n s (index + 1) rest

def Node.availabilities (n : Node α) (s : State α) : List (Availability α) :=
  n.availabilitiesFrom s 0 n.choices

/-- The outcome of taking a choice. -/
structure ChoiceResult where
  success : Bool
  node : Option String := none
  report : Option EffectReport := none
  error : Option String := none
  deriving Repr, DecidableEq

def ChoiceResult.failure (error : String) : ChoiceResult := { success := false, error := some error }

namespace Play

/-- The choices of the current node. -/
def choices (setup : Setup α) : Play α (List (Availability α)) := do
  let g ← get
  match g.currentNode? setup with
  | none => return []
  | some n =>
    let found := n.availabilities g.state
    logAll (Requirement.logOf (found.flatMap (·.warnings)))
    return found

/-- Where a choice leads once its effects are applied. -/
def choiceTarget (setup : Setup α) (n : Node α) (index : Nat) (c : Choice α)
    (report : Option EffectReport) : Play α String := do
  match report.bind (·.goto) with
  | none => return c.next
  | some target =>
    if (setup.story.node? target).isSome then return target
    else
      log (.choiceJumpMissing index n.id target c.next)
      return c.next

/-- Takes a choice that is available. -/
def takeChoice (setup : Setup α) (n : Node α) (index : Nat) (c : Choice α) :
    Play α ChoiceResult := do
  emit (.choiceSelected c index)
  let report ← applyAny setup c.effects
  let target ← choiceTarget setup n index c report
  let entered ← enterNode setup target
  let node := some (← state).currentNode
  if entered then return { success := true, node, report }
  else return { success := false, node, report, error := some ("Node not found: " ++ target) }

/-- The choice of a node at a position, if there is one. -/
def choiceAt? (n : Node α) (index : Int) : Option (Choice α) :=
  if index < 0 then none else n.choices[index.toNat]?

/-- Takes the choice at a position of the current node.  A position too long to be written is not even
logged. -/
def choose (setup : Setup α) (index : Int) : Play α ChoiceResult := do
  match (← get).currentNode? setup with
  | none => return .failure "No current node"
  | some n => match choiceAt? n index with
    | none =>
      let position ← liftM (Number.wholeText α index)
      log (.choiceMissing index n.id)
      return .failure ("Invalid choice index: " ++ position)
    | some c =>
      let _ ← choices setup
      let a := n.availability (← state) index.toNat c
      if a.available then takeChoice setup n index.toNat c
      else
        let reason := match a.reason with
          | none | some "" => "requirements not met"
          | some reason => reason
        log (.choiceUnavailable index n.id reason)
        return .failure ("Choice not available: " ++ reason)

end Play

end StoryRules
