import StoryRules.Channel.Session
import StoryRules.Table

/-!
# Scripted listeners

Listeners that follow a script: all of them record the events they hear, and then some fail, some
take back their own registration and some register a further listener.  Handles are kept under names.
-/

namespace StoryRules.Channel

inductive Behavior where
  | record
  | fail
  /-- Takes back the registration behind the handle of its own name. -/
  | leave
  /-- Registers a recording listener, its own name with a plus sign behind. -/
  | invite
  deriving Repr, DecidableEq

namespace Behavior

def name : Behavior → String
  | .record => "record"
  | .fail => "fail"
  | .leave => "leave"
  | .invite => "invite"

def ofName? (name : String) : Option Behavior :=
  [record, .fail, .leave, .invite].find? fun b => b.name = name

end Behavior

/-- What scripted listeners know. -/
structure Script where
  /-- The positions of the handles; a name stands for its latest handle. -/
  handles : Table Nat := []
  /-- What each listener does; the first script of a listener stays. -/
  behaviors : Table Behavior := []

namespace Script

/-- Notes a handle at a position, and what its listener does. -/
def enter (m : Script) (handle : String) (position : Nat) (listener : String) (behavior : Behavior) :
    Script :=
  { handles := m.handles.put handle position
    behaviors := if m.behaviors.has listener then m.behaviors else m.behaviors.put listener behavior }

/-- What a listener does about an event.  To leave without a handle of its own name is a failure. -/
def conduct : Conduct String Script := fun _ listener c m =>
  match (m.behaviors.get? listener).getD .record with
  | .record => { memory := m }
  | .fail => { memory := m, fails := true }
  | .leave => match m.handles.get? listener with
    | some position => { memory := m, requests := [.unsubscribe position] }
    | none => { memory := m, fails := true }
  | .invite =>
    let guest := listener ++ "+"
    { memory := m.enter guest c.handles.length guest .record, requests := [.subscribe guest] }

end Script

/-- A channel with scripted listeners, and what they heard. -/
structure Stage where
  channel : Channel String := {}
  script : Script := {}
  heard : List (String × EventKind) := []

namespace Stage

/-- The stage after an act, and what is logged of it. -/
def perform (s : Stage) (act : Act String) : Stage × List LogLine :=
  let (t, _) := Session.perform Script.conduct { channel := s.channel, memory := s.script } act
  ({ channel := t.channel
     script := t.memory
     heard := s.heard ++ t.calls.map fun call => (call.listener, call.kind) }, t.log)

def subscribe (s : Stage) (handle listener : String) (behavior : Behavior) : Stage :=
  let position := s.channel.handles.length
  { (s.perform (.ask (.subscribe listener))).1 with
    script := s.script.enter handle position listener behavior }

def unsubscribe (s : Stage) (handle : String) : Stage :=
  match s.script.handles.get? handle with
  | some position => (s.perform (.ask (.unsubscribe position))).1
  | none => s

/-- The handles by name, and whether they are active. -/
def active (s : Stage) : Table Bool := s.script.handles.mapValues s.channel.isActive

/-- Sends an event to those who are registered now. -/
def emit (s : Stage) (kind : EventKind) : Stage × List LogLine := s.perform (.emit kind)

/-- Sends an event in a block, at whose end the registration behind a handle is taken back. -/
def emitWithin (s : Stage) (handle : String) (kind : EventKind) : Stage × List LogLine :=
  match s.script.handles.get? handle with
  | some position => s.perform (.within position [.emit kind])
  | none => s.emit kind

end Stage

end StoryRules.Channel
