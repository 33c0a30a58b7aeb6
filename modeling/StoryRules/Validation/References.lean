import StoryRules.Patterns
import StoryRules.Puzzle.Document
import StoryRules.Story
import StoryRules.Validation.Flaw

/-!
# References within a story

What nodes, effects, requirements and puzzles refer to must be there.  `flaws` functions list what is
missing, in the order of the document; `targets` functions list the nodes that are referred to.
-/

namespace StoryRules

variable {α : Type} [Number α]

/-- The flaw, if the reference is broken. -/
def flawUnless (present : Bool) (flaw : Flaw) : List Flaw :=
  if present then [] else [flaw]

namespace Story

def hasNode (s : Story α) (id : String) : Bool := (s.node? id).isSome

def hasItem (s : Story α) (id : String) : Bool := (s.item? id).isSome

def hasStat (s : Story α) (id : String) : Bool := (s.stat? id).isSome

def hasCurrency (s : Story α) (id : String) : Bool := (s.currency? id).isSome

def hasAsset (s : Story α) (id : String) : Bool := (s.asset? id).isSome

def hasPuzzle (s : Story α) (id : String) : Bool := s.puzzles.any fun entry => entry.2.id = id

end Story

/-! ## Effects -/

namespace Effect

/-- The flaws of locking or unlocking a choice. -/
def lockFlaws (s : Story α) (place : Place) (op node : String) (index : Int) :
    Except Fault (List Flaw) :=
  match s.node? node with
  | none => .ok [.unknownLockNode place op node]
  | some target =>
    if 0 ≤ index && index < target.choices.length then .ok []
    else do
      let position ← Number.wholeText α index
      .ok [.lockOutOfRange place op position node]

/-- The flaws of one effect, not of those nested in it. -/
def flaws (s : Story α) (place : Place) : Effect α → Except Fault (List Flaw)
  | .addItem item _ => .ok (flawUnless (s.hasItem item) (.undefinedItem place item))
  | .removeItem item _ => .ok (flawUnless (s.hasItem item) (.undefinedItem place item))
  | .addStat stat _ => .ok (flawUnless (s.hasStat stat) (.undefinedStat place stat))
  | .addCurrency currency _ =>
    .ok (flawUnless (s.hasCurrency currency) (.undeclaredCurrency place currency))
  | .goto target => .ok (flawUnless (s.hasNode target) (.unknownGoto place target))
  | .lockChoice node index => lockFlaws s place "lock_choice" node index
  | .unlockChoice node index => lockFlaws s place "unlock_choice" node index
  | .lootTable table =>
    if table.isEmpty then .ok [.emptyLoot place]
    else do
      let total ← Number.sum (table.map Weighted.weight)
      .ok (flawUnless (!Number.atMost total (Number.whole 0)) (.emptyLoot place))
  | _ => .ok []

/-- The flaws of a list of effects with all that is nested in it. -/
def flawsOf (s : Story α) (place : Place) (effects : List (Effect α)) :
    Except Fault (List Flaw) := do
  let flaws ← (walk effects).mapM (flaws s place)
  .ok flaws.flatten

/-- The target of a jump. -/
def target? : Effect α → Option String
  | .goto target => some target
  | _ => none

/-- The targets of all jumps in a list. -/
def targetsOf (effects : List (Effect α)) : List String := (walk effects).filterMap target?

end Effect

/-! ## Requirements -/

/-- The flaw of a part of a condition that names something; a missing part names nothing. -/
def flawUnlessNamed (present : String → Bool) (flaw : String → Flaw) :
    Option String → List Flaw
  | none => []
  | some id => flawUnless (present id) (flaw id)

def Condition.flaws (s : Story α) (place : Place) : Condition α → List Flaw
  | .hasItem item _ => flawUnlessNamed s.hasItem (.requiredItem place) item
  | .inventoryLt item _ => flawUnlessNamed s.hasItem (.requiredItem place) item
  | .statGte stat _ => flawUnlessNamed s.hasStat (.requiredStat place) stat
  | .statBetween stat _ _ => flawUnlessNamed s.hasStat (.requiredStat place) stat
  | .currencyGte currency _ => flawUnlessNamed s.hasCurrency (.requiredCurrency place) currency
  | .currencyLt currency _ => flawUnlessNamed s.hasCurrency (.requiredCurrency place) currency
  | .visitedNode node => flawUnlessNamed s.hasNode (.requiredNode place) node
  | .puzzleSolved puzzle => flawUnlessNamed s.hasPuzzle (.requiredPuzzle place) puzzle
  | .flagIs _ _ => []

/-! ## Puzzles -/

def mediaFlaws (s : Story α) (place : Place) (media : List MediaRef) : List Flaw :=
  media.flatMap fun ref => flawUnless (s.hasAsset ref.asset) (.undefinedAsset place ref.asset)

namespace Puzzle

/-- What comes of a variant. -/
inductive VariantCheck (α : Type) where
  /-- The variant would give the puzzle another id. -/
  | renames
  | invalid (problems : Nat)
  | puzzle (p : Puzzle α)

/-- Whether a variant leaves the id of a puzzle as it is. -/
def keepsId (p : Puzzle α) (v : Variant α) : Bool :=
  match v.item.get? "id" with
  | none => true
  | some (.text id) => id = p.id
  | some _ => false

def checkVariant (p : Puzzle α) (v : Variant α) : VariantCheck α :=
  if !p.keepsId v then .renames
  else match p.withVariant v with
    | .ok q => .puzzle q
    | .bad problems => .invalid problems.length

/-- The outcomes of success and of failure that are there. -/
def outcomes (p : Puzzle α) : List (Bool × Outcome α) :=
  (p.success.map fun o => (true, o)).toList ++ (p.failure.map fun o => (false, o)).toList

/-- The nodes that an outcome leads to. -/
def outcomeTargets (o : Outcome α) : List String := o.next.toList ++ Effect.targetsOf o.effects

def outcomeFlaws (s : Story α) (place : Place) (success : Bool) (o : Outcome α) :
    Except Fault (List Flaw) := do
  let next := o.next.toList.flatMap fun id =>
    flawUnless (s.hasNode id) (.unknownNode (.outcome place success) id)
  let effects ← Effect.flawsOf s (.outcomeEffects place success) o.effects
  .ok (next ++ effects)

def patternFlaws (language : PatternLanguage) (place : Place) :
    Task α → Except Fault (List Flaw)
  | .regex pattern flags =>
    match language pattern flags with
    | .ok _ => .ok []
    | .error (.invalid message) => .ok [.badPattern place message]
    | .error (.fault fault) => .error fault
  | _ => .ok []

/-- The flaws of those fields of a puzzle that `considered` names; variants are not looked into. -/
def ownFlaws (language : PatternLanguage) (s : Story α) (place : Place)
    (considered : String → Bool) (p : Puzzle α) : Except Fault (List Flaw) := do
  let media := if considered "media" then mediaFlaws s place p.media else []
  let outcomes ← (p.outcomes.filter fun o => considered (outcomeName o.1)).mapM fun o =>
    outcomeFlaws s place o.1 o.2
  let pattern ←
    if considered "kind" || considered "pattern" || considered "flags" then
      patternFlaws language place p.task
    else .ok []
  .ok (media ++ outcomes.flatten ++ pattern)

def hintFlaws (s : Story α) (place : Place) (p : Puzzle α) : List Flaw :=
  match p.dynamic.bind Dynamic.hintCost with
  | some cost => flawUnless (s.hasCurrency cost.currency) (.hintCurrency place cost.currency)
  | none => []

/-- The flaws of a variant: of the override itself, or of the fields that it replaces. -/
def variantFlaws (language : PatternLanguage) (s : Story α) (place : Place) (p : Puzzle α)
    (v : Variant α) : Except Fault (List Flaw) :=
  match p.checkVariant v with
  | .renames => .ok [.variantRenames place]
  | .invalid problems => .ok [.variantInvalid place problems]
  | .puzzle q => q.ownFlaws language s place v.item.has

/-- The flaws of a list of variants, counted from `index`. -/
def variantsFlaws (language : PatternLanguage) (s : Story α) (place : Place) (p : Puzzle α) :
    (index : Nat) → List (Variant α) → Except Fault (List Flaw)
  | _, [] => .ok []
  | index, v :: rest => do
    let flaws ← variantFlaws language s (.variant place index) p v
    let more ← variantsFlaws language s place p (index + 1) rest
    .ok (flaws ++ more)

def flaws (language : PatternLanguage) (s : Story α) (p : Puzzle α) :
    Except Fault (List Flaw) := do
  let place := Place.puzzle p.id
  let own ← p.ownFlaws language s place fun _ => true
  let variants ← p.variantsFlaws language s place 0 p.variants
  .ok (own ++ p.hintFlaws s place ++ variants)

/-- The nodes that the considered outcomes lead to. -/
def ownTargets (considered : String → Bool) (p : Puzzle α) : List String :=
  (p.outcomes.filter fun o => considered (outcomeName o.1)).flatMap fun o => outcomeTargets o.2

/-- The nodes that the outcomes of a puzzle and of its variants lead to. -/
def targets (p : Puzzle α) : List String :=
  p.ownTargets (fun _ => true) ++ p.variants.flatMap fun v =>
    match p.checkVariant v with
    | .puzzle q => q.ownTargets v.item.has
    | _ => []

end Puzzle

/-! ## Nodes -/

namespace Node

/-- The flaws of the choice at a position of a node. -/
def choiceFlaws (s : Story α) (n : Node α) (index : Nat) (c : Choice α) :
    Except Fault (List Flaw) := do
  let place := Place.choice n.id index
  let next := flawUnless (s.hasNode c.next) (.unknownNode place c.next)
  let loop := flawUnless (c.next ≠ n.id || n.puzzle.isSome || !c.effects.isEmpty)
    (Flaw.idleLoop n.id)
  let effects ← Effect.flawsOf s (.choiceEffects n.id index) c.effects
  let required := (Requirement.conditions? c.requirement).flatMap (Condition.flaws s place)
  .ok (next ++ loop ++ effects ++ required)

/-- The flaws of a list of choices, counted from `index`. -/
def choicesFlaws (s : Story α) (n : Node α) :
    (index : Nat) → List (Choice α) → Except Fault (List Flaw)
  | _, [] => .ok []
  | index, c :: rest => do
    let flaws ← choiceFlaws s n index c
    let more ← choicesFlaws s n (index + 1) rest
    .ok (flaws ++ more)

def flaws (language : PatternLanguage) (s : Story α) (n : Node α) :
    Except Fault (List Flaw) := do
  let media := mediaFlaws s (.node n.id) n.media
  let entry ← Effect.flawsOf s (.onEnter n.id) n.onEnterEffects
  let ending := flawUnless (!n.isEnding || n.choices.isEmpty) (Flaw.endingWithChoices n.id)
  let choices ← n.choicesFlaws s 0 n.choices
  let puzzle ← match n.puzzle with
    | some p => p.flaws language s
    | none => .ok []
  .ok (media ++ entry ++ ending ++ choices ++ puzzle)

/-- The nodes that a node refers to. -/
def targets (n : Node α) : List String :=
  Effect.targetsOf n.onEnterEffects ++
    n.choices.flatMap (fun c => c.next :: Effect.targetsOf c.effects) ++
    n.puzzle.toList.flatMap Puzzle.targets

end Node

end StoryRules
