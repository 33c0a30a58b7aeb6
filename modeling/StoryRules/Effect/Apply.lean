import StoryRules.Datum.Display
import StoryRules.Draw
import StoryRules.Effect
import StoryRules.Log
import StoryRules.State
import StoryRules.Unchecked

/-!
# Applying effects

Effects run strictly in order and every one is attempted.  An effect that fails is reported and
changes nothing, and the ones behind it still run.  Jumps are recorded, not made; the first one
counts.  Only a fault stops a list, of arithmetic or of a number too long for a message, and what was
done before it stays done.
-/

namespace StoryRules

/-- The outcome of some effects: the messages in order, and the first jump asked for. -/
structure EffectReport where
  success : Bool := true
  logs : List String := []
  goto : Option String := none
  deriving Repr, DecidableEq

namespace EffectReport

def ok (message : String) : EffectReport := { logs := [message] }

def failure (message : String) : EffectReport := { success := false, logs := [message] }

/-- What is said of a jump that comes too late. -/
def ignored (late early : String) : String :=
  "Ignoring goto " ++ late ++ "; already jumping to " ++ early

/-- The report of `a` followed by `b`. -/
def absorb (a b : EffectReport) : EffectReport :=
  match a.goto, b.goto with
  | some early, some late =>
    ⟨a.success && b.success, a.logs ++ b.logs ++ [ignored late early], some early⟩
  | none, goto => ⟨a.success && b.success, a.logs ++ b.logs, goto⟩
  | goto, none => ⟨a.success && b.success, a.logs ++ b.logs, goto⟩

end EffectReport

/-- What effects work on. -/
structure Scene (α : Type) where
  state : State α
  draws : Feed α
  clock : Feed Int
  log : List LogLine := []

/-- A step of play that may meet a fault; the scene up to the fault is kept. -/
abbrev Run (α : Type) := ExceptT Fault (StateM (Scene α))

namespace Effect

variable {α : Type} [Number α]

/-- Reports an effect that fails. -/
def fail (line : LogLine) : Run α EffectReport := do
  modify fun scene => { scene with log := scene.log ++ [line] }
  return .failure line.text

/-- A value, or the fault that keeps it from being computed. -/
def orFault {β : Type} (e : Except Fault β) : Run α β := liftM e

/-- Changes the state and tells of it.  The change comes first: it stays where the message has a number
in it that is too long to be written. -/
def alter (f : State α → State α) (message : Except Fault String) : Run α EffectReport := do
  modify fun scene => { scene with state := f scene.state }
  let message ← orFault message
  return .ok message

/-! ## Single effects -/

/-- The quantity of an item that can be held. -/
def clampQuantity (item : Item) (quantity : Int) : Int :=
  if !item.stackable then max 0 (min quantity 1)
  else match item.maxStack with
    | some most => max 0 (min quantity most)
    | none => max 0 quantity

/-- What is said of an amount or a quantity that changed: two numbers, with words around them. -/
def told (first second : Except Fault String) (words : String → String → String) :
    Except Fault String := do
  let first ← first
  let second ← second
  return words first second

/-- Changes the quantity of an item by `delta`; `words` gets the item, and the quantity that was asked
for and the new one in writing. -/
def changeItem (story : Story α) (id : String) (asked delta : Int)
    (words : Item → String → String → String) : Run α EffectReport := do
  match story.item? id with
  | none => fail (.itemMissing id)
  | some item =>
    let quantity := clampQuantity item ((← get).state.quantity id + delta)
    alter (fun s => { s with inventory := s.inventory.put id quantity })
      (told (Number.wholeText α asked) (Number.wholeText α quantity) (words item))

def changeCurrency (id : String) (value : α) : Run α EffectReport := do
  let current := (← get).state.currency id
  let total ← orFault (Number.add current value)
  let amount := Number.larger (Number.whole 0) total
  alter (fun s => { s with currencies := s.currencies.put id amount })
    (told (Number.text current) (Number.text amount) fun before after =>
      "Currency " ++ id ++ ": " ++ before ++ " -> " ++ after)

def changeStat (story : Story α) (id : String) (value : α) : Run α EffectReport := do
  match story.stat? id with
  | none => fail (.statMissing id)
  | some stat =>
    let current := ((← get).state.stats.get? id).getD stat.start
    let total ← orFault (Number.add current value)
    let amount := Number.larger stat.min (Number.smaller stat.max total)
    alter (fun s => { s with stats := s.stats.put id amount })
      (told (Number.text current) (Number.text amount) fun before after =>
        "Stat " ++ stat.name ++ ": " ++ before ++ " -> " ++ after)

/-- Applies an effect that is no loot table. -/
def applySimple (story : Story α) : Effect α → Run α EffectReport
  | .addItem id quantity =>
    changeItem story id quantity quantity fun item added total =>
      "Added " ++ added ++ " x " ++ item.name ++ " (total: " ++ total ++ ")"
  | .removeItem id quantity =>
    changeItem story id quantity (-quantity) fun item removed total =>
      "Removed " ++ removed ++ " x " ++ item.name ++ " (remaining: " ++ total ++ ")"
  | .addCurrency id value => changeCurrency id value
  | .addStat id value => changeStat story id value
  | .setFlag name value =>
    alter (fun s => { s with flags := s.flags.put name value })
      (.ok ("Flag " ++ name ++ " set to " ++ Datum.truthText value))
  | .log message => return .ok message
  | .goto target =>
    return { logs := ["Jumping to node: " ++ target], goto := some target }
  | .unlockChoice node index =>
    alter
      (fun s =>
        { s with lockedChoices := s.lockedChoices.put node ((s.locks node).filter (· ≠ index)) })
      ((Number.wholeText α index).map fun position =>
        "Unlocked choice " ++ position ++ " in node " ++ node)
  | .lockChoice node index =>
    alter
      (fun s =>
        let locks := s.locks node
        let locks := if locks.contains index then locks else locks ++ [index]
        { s with lockedChoices := s.lockedChoices.put node locks })
      ((Number.wholeText α index).map fun position =>
        "Locked choice " ++ position ++ " in node " ++ node)
  | .setTimer timer duration => do
    let (now, clock) := (← get).clock.next
    modify fun scene => { scene with clock := clock }
    alter (fun s => { s with timers := s.timers.put timer (now + duration) })
      ((Number.wholeText α duration).map fun time =>
        "Timer " ++ timer ++ " set to expire in " ++ time ++ "ms")
  | .lootTable _ => return {}

/-! ## Lists -/

/-- Draws a position in a loot table. -/
def drawEntry (table : List (LootEntry α)) : Run α (Option Nat) := do
  let scene ← get
  let (result, draws) := Draw.pick (table.map Weighted.weight) scene.draws
  set { scene with draws := draws }
  orFault result

mutual

def applyOne (story : Story α) : Effect α → Run α EffectReport
  | .lootTable table =>
    if table.isEmpty then fail .lootEmpty
    else do
      match ← drawEntry table with
      | none => fail .lootWeightless
      | some i =>
        let drawn ← applyEntry story table i
        return (EffectReport.ok "Loot table rolled:").absorb drawn
  | e => applySimple story e

/-- Applies the rest of a list, after what `report` says. -/
def applyFrom (story : Story α) (report : EffectReport) : List (Effect α) → Run α EffectReport
  | [] => return report
  | e :: rest => do
    let next ← applyOne story e
    applyFrom story (report.absorb next) rest

/-- Applies the effects of the entry at a position. -/
def applyEntry (story : Story α) :
    List (Weighted α (List (Effect α))) → Nat → Run α EffectReport
  | [], _ => return {}
  | ⟨_, effects⟩ :: _, 0 => applyFrom story {} effects
  | _ :: rest, i + 1 => applyEntry story rest i

end

/-- Applies a list of effects. -/
def applyAll (story : Story α) (effects : List (Effect α)) : Run α EffectReport :=
  applyFrom story {} effects

/-- Applies effects some of which may be unknown operations, which fail. -/
def applyUnchecked (story : Story α) (report : EffectReport) :
    List (Unchecked α (Effect α)) → Run α EffectReport
  | [] => return report
  | .known e :: rest => do
    let next ← applyOne story e
    applyUnchecked story (report.absorb next) rest
  | .unknown tag :: rest => do
    let tag ← orFault tag.written
    let next ← fail (.operationUnknown tag)
    applyUnchecked story (report.absorb next) rest

end Effect

end StoryRules
