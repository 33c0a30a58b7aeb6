import StoryRules.Event

/-!
# Event channels

A channel keeps its listeners in the order in which they were registered.  Subscribing a listener
gives a handle; a handle takes back one registration of its listener, the first one there is, and
does so once.  An event goes to those who were registered when it was sent, whatever they do about
it.
-/

namespace StoryRules

/-- A handle for a listener. -/
structure Subscription (β : Type) where
  listener : β
  active : Bool
  deriving Repr, DecidableEq

structure Channel (β : Type) where
  /-- The registered listeners; one may be registered several times. -/
  listeners : List β := []
  /-- All handles ever given out, the oldest first; a handle is known by its position. -/
  handles : List (Subscription β) := []
  deriving Repr, DecidableEq

namespace Channel

variable {β σ : Type}

def count (c : Channel β) : Nat := c.listeners.length

/-- Registers a listener; the position of its handle. -/
def subscribe (c : Channel β) (listener : β) : Channel β × Nat :=
  ({ listeners := c.listeners ++ [listener], handles := c.handles ++ [⟨listener, true⟩] },
    c.handles.length)

def isActive (c : Channel β) (handle : Nat) : Bool :=
  match c.handles[handle]? with
  | some s => s.active
  | none => false

/-- Takes back a registration; a handle that has done so does nothing. -/
def unsubscribe [BEq β] (c : Channel β) (handle : Nat) : Channel β :=
  match c.handles[handle]? with
  | some ⟨listener, true⟩ =>
    { listeners := c.listeners.erase listener
      handles := c.handles.set handle ⟨listener, false⟩ }
  | _ => c

/-- What is logged of a listener that fails. -/
def failureLine (kind : EventKind) : LogLine :=
  .plain .error ("Listener failed while handling " ++ kind.name)

/-- Sends an event to listeners, in order.  `react` says what a listener does, and whether it
fails. -/
def deliver (kind : EventKind) (react : β → σ → σ × Bool) (s : σ) : List β → σ × List LogLine
  | [] => (s, [])
  | listener :: rest =>
    let (s, fails) := react listener s
    let (s, log) := deliver kind react s rest
    (s, if fails then failureLine kind :: log else log)

end Channel

end StoryRules
