import StoryRules.Channel

/-!
# Sessions on a channel

What happens on a channel whose listeners have a say.  The owner of the channel subscribes listeners, takes
registrations back, sends events, and works in blocks at whose end a registration is taken back.  A listener
that hears an event may subscribe and take back too, until it is done or fails.  The session keeps account of
all of it.
-/

namespace StoryRules.Channel

variable {β σ : Type}

/-- What is asked of a channel. -/
inductive Request (β : Type) where
  | subscribe (listener : β)
  | unsubscribe (handle : Nat)
  deriving Repr, DecidableEq

def serve [BEq β] (c : Channel β) : Request β → Channel β
  | .subscribe listener => (c.subscribe listener).1
  | .unsubscribe handle => c.unsubscribe handle

def serveAll [BEq β] (c : Channel β) (requests : List (Request β)) : Channel β :=
  requests.foldl serve c

/-- What a listener does about an event: what it asks of the channel, what is remembered from then on, and
whether it fails in the end. -/
structure Response (β σ : Type) where
  memory : σ
  requests : List (Request β) := []
  fails : Bool := false

/-- What every listener does, given the channel and the memory as it finds them. -/
abbrev Conduct (β σ : Type) := EventKind → β → Channel β → σ → Response β σ

/-- A listener was told of an event. -/
structure Call (β : Type) where
  listener : β
  kind : EventKind
  failed : Bool
  deriving Repr, DecidableEq

structure Session (β σ : Type) where
  channel : Channel β := {}
  /-- What the listeners remember. -/
  memory : σ
  /-- The channel as it was before each change, the oldest first. -/
  past : List (Channel β) := []
  calls : List (Call β) := []
  log : List LogLine := []

/-- What the owner of a channel does. -/
inductive Act (β : Type) where
  | ask (request : Request β)
  | emit (kind : EventKind)
  /-- A block, at whose end the registration of a handle is taken back. -/
  | within (handle : Nat) (body : List (Act β))
  /-- Something else fails, which breaks off all blocks around it. -/
  | fail

namespace Session

variable [BEq β]

def ask (s : Session β σ) (request : Request β) : Session β σ :=
  { s with channel := s.channel.serve request, past := s.past ++ [s.channel] }

/-- All that the channel has been, and is. -/
def reached (s : Session β σ) : List (Channel β) := s.past ++ [s.channel]

variable (conduct : Conduct β σ)

/-- Tells a listener of an event, and whether the listener failed. -/
def call (kind : EventKind) (listener : β) (s : Session β σ) : Session β σ × Bool :=
  let response := conduct kind listener s.channel s.memory
  let s := response.requests.foldl ask { s with memory := response.memory }
  ({ s with calls := s.calls ++ [⟨listener, kind, response.fails⟩] }, response.fails)

/-- Sends an event to those who are registered now. -/
def emit (s : Session β σ) (kind : EventKind) : Session β σ :=
  let (t, log) := deliver kind (call conduct kind) s s.channel.listeners
  { t with log := t.log ++ log }

mutual

/-- The session after an act, and whether the act came to its end. -/
def perform (s : Session β σ) : Act β → Session β σ × Bool
  | .ask request => (s.ask request, true)
  | .emit kind => (s.emit conduct kind, true)
  | .within handle body =>
    let (s, ended) := performAll s body
    (s.ask (.unsubscribe handle), ended)
  | .fail => (s, false)

/-- Acts in order, up to the first that is broken off. -/
def performAll (s : Session β σ) : List (Act β) → Session β σ × Bool
  | [] => (s, true)
  | act :: rest =>
    let (s, ended) := perform s act
    if ended then performAll s rest else (s, false)

end

end Session

end StoryRules.Channel
