import StoryRules.Channel
import StoryRules.Engine
import StoryRules.Table

/-!
# The audience of an engine

Listeners with names that note which events they hear; some fail at every event.  Failing listeners
are logged where they fail, between the other log lines of the step.
-/

namespace StoryRules

/-- A listener; the same name may be used by several. -/
structure Spectator where
  name : String
  /-- Tells listeners of one name apart. -/
  number : Nat
  fails : Bool
  deriving Repr, DecidableEq

structure Audience where
  channel : Channel Spectator := {}
  /-- The latest handle of each name. -/
  handles : Table Nat := []

/-- What the audience and the log got of a step. -/
structure Reception where
  heard : List (String × EventKind) := []
  log : List LogLine := []

namespace Audience

def join (a : Audience) (name : String) (fails : Bool) : Audience :=
  let (channel, handle) := a.channel.subscribe ⟨name, a.channel.handles.length, fails⟩
  { channel, handles := a.handles.put name handle }

def leave (a : Audience) (name : String) : Audience :=
  match a.handles.get? name with
  | some handle => { a with channel := a.channel.unsubscribe handle }
  | none => a

/-- Whether the latest handle of a name is active; there may be none. -/
def isActive? (a : Audience) (name : String) : Option Bool :=
  (a.handles.get? name).map a.channel.isActive

/-- Hands one note on. -/
def receive {α : Type} (a : Audience) (r : Reception) : Note α → Reception
  | .log line => { r with log := r.log ++ [line] }
  | .event e =>
    let react := fun (s : Spectator) (heard : List (String × EventKind)) =>
      (heard ++ [(s.name, e.kind)], s.fails)
    let (heard, log) := Channel.deliver e.kind react r.heard a.channel.listeners
    { heard, log := r.log ++ log }

/-- Hands the notes of a step on, in order. -/
def receiveAll {α : Type} (a : Audience) (notes : List (Note α)) : Reception :=
  notes.foldl a.receive {}

end Audience

end StoryRules
