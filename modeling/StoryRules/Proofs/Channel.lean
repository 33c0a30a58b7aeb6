import StoryRules.Channel.Session

/-!
# Registrations and handles

Every registration on a channel belongs to an active handle and every active handle has one: whatever the owner
and the listeners do, no registration is lost and none is made twice.  An event is heard by those who were
registered when it was sent, once for each registration and in their order.

    ∀ c ∈ (performAll conduct { memory } acts).1.reached, c.listeners.Perm c.activeListeners
    (s.emit conduct kind).calls.map listener = s.calls.map listener ++ s.channel.listeners
-/

namespace StoryRules.Channel

variable {β σ : Type}

/-! ## Handles -/

/-- The listeners of the active ones among some handles. -/
def activeOf (handles : List (Subscription β)) : List β :=
  (handles.filter Subscription.active).map Subscription.listener

/-- The listeners of the active handles, in the order in which they were subscribed. -/
def activeListeners (c : Channel β) : List β := activeOf c.handles

/-- The listeners of all handles, active or not, in the order in which they were subscribed. -/
def subscribed (c : Channel β) : List β := c.handles.map Subscription.listener

theorem activeOf_append (handles more : List (Subscription β)) :
    activeOf (handles ++ more) = activeOf handles ++ activeOf more := by
  unfold activeOf
  rw [List.filter_append, List.map_append]

theorem activeListeners_subscribe (c : Channel β) (listener : β) :
    (c.subscribe listener).1.activeListeners = c.activeListeners ++ [listener] :=
  activeOf_append c.handles [⟨listener, true⟩]

theorem subscribed_subscribe (c : Channel β) (listener : β) :
    (c.subscribe listener).1.subscribed = c.subscribed ++ [listener] := by
  simp [subscribed, subscribe]

section

variable [DecidableEq β]

/-- An active handle takes back a registration, the first one of its listener. -/
structure Withdraws (c d : Channel β) (handle : Nat) (listener : β) : Prop where
  wasActive : c.handles[handle]? = some ⟨listener, true⟩
  listeners : d.listeners = c.listeners.erase listener
  subscribed : d.subscribed = c.subscribed
  active : ∃ after, c.activeListeners = activeOf (c.handles.take handle) ++ listener :: after ∧
    d.activeListeners = activeOf (c.handles.take handle) ++ after

/-- To unsubscribe is to take a registration back, or nothing where the handle is not active. -/
theorem unsubscribe_cases (c : Channel β) (handle : Nat) :
    (∃ listener, c.Withdraws (c.unsubscribe handle) handle listener) ∨
      (∀ listener, c.handles[handle]? ≠ some ⟨listener, true⟩) ∧ c.unsubscribe handle = c := by
  unfold unsubscribe
  split
  · next listener hhandle =>
    obtain ⟨hlt, hget⟩ := List.getElem?_eq_some_iff.1 hhandle
    have hset : c.handles.set handle ⟨listener, false⟩ =
        c.handles.take handle ++ ⟨listener, false⟩ :: c.handles.drop (handle + 1) := by
      rw [List.set_eq_take_append_cons_drop, if_pos hlt]
    have hsplit : c.handles = c.handles.take handle ++ ⟨listener, true⟩ :: c.handles.drop (handle + 1) := by
      rw [← hget, ← List.drop_eq_getElem_cons hlt, List.take_append_drop]
    refine .inl ⟨listener, hhandle, rfl, ?_, activeOf (c.handles.drop (handle + 1)), ?_, ?_⟩
    · unfold subscribed
      conv => rhs; rw [hsplit]
      rw [hset, List.map_append, List.map_append]
      rfl
    · unfold activeListeners
      conv => lhs; rw [hsplit]
      exact activeOf_append _ _
    · unfold activeListeners
      rw [hset]
      exact activeOf_append _ _
  · next hinactive => exact .inr ⟨fun listener h => hinactive listener h, rfl⟩

/-! ## Balance -/

/-- There are as many registrations of each listener as active handles. -/
def Balanced (c : Channel β) : Prop := c.listeners.Perm c.activeListeners

namespace Balanced

omit [DecidableEq β] in
theorem empty : ({} : Channel β).Balanced := .nil

variable {c : Channel β} (h : c.Balanced)

include h

omit [DecidableEq β] in
theorem subscribe (listener : β) : (c.subscribe listener).1.Balanced := by
  show (c.listeners ++ [listener]).Perm (c.subscribe listener).1.activeListeners
  rw [activeListeners_subscribe]
  exact List.Perm.append_right [listener] h

theorem unsubscribe (handle : Nat) : (c.unsubscribe handle).Balanced := by
  rcases c.unsubscribe_cases handle with ⟨listener, hwithdraws⟩ | ⟨-, hsame⟩
  · obtain ⟨after, hactive, hleft⟩ := hwithdraws.active
    unfold Balanced at h ⊢
    rw [hactive] at h
    rw [hwithdraws.listeners, hleft]
    have herase := (h.trans List.perm_middle).erase listener
    rwa [List.erase_cons_head] at herase
  · rwa [hsame]

/-- Nothing that is asked of a channel unbalances it. -/
theorem serve (request : Request β) : (c.serve request).Balanced := by
  cases request with
  | subscribe listener => exact h.subscribe listener
  | unsubscribe handle => exact h.unsubscribe handle

theorem count_listeners (b : β) :
    c.listeners.count b = c.handles.countP fun s => s.active && decide (s.listener = b) := by
  rw [h.count_eq, activeListeners, activeOf, List.count, List.countP_map, List.countP_filter]
  refine List.countP_congr fun s _ => ?_
  simp [and_comm]

omit [DecidableEq β] in
theorem count_eq : c.count = c.handles.countP Subscription.active := by
  rw [count, h.length_eq, activeListeners, activeOf, List.length_map, List.countP_eq_length_filter]

end Balanced

end

namespace Session

variable [DecidableEq β] (conduct : Conduct β σ)

/-! ## What is heard -/

/-- What a listener asks for calls nobody and logs nothing. -/
theorem askAll_keeps (requests : List (Request β)) :
    ∀ s : Session β σ, (requests.foldl ask s).calls = s.calls ∧ (requests.foldl ask s).log = s.log := by
  induction requests with
  | nil => exact fun s => ⟨rfl, rfl⟩
  | cons request rest ih => exact fun s => ih (s.ask request)

theorem calls_call (s : Session β σ) (kind : EventKind) (listener : β) :
    (s.call conduct kind listener).1.calls =
      s.calls ++ [⟨listener, kind, (s.call conduct kind listener).2⟩] := by
  unfold call
  dsimp only
  rw [(askAll_keeps _ _).1]

theorem log_call (s : Session β σ) (kind : EventKind) (listener : β) :
    (s.call conduct kind listener).1.log = s.log := by
  unfold call
  exact (askAll_keeps _ _).2

/-- The calls of one event: one for each listener, in order. -/
structure Told (kind : EventKind) (listeners : List β) (calls : List (Call β)) : Prop where
  listeners : calls.map Call.listener = listeners
  kind : ∀ call ∈ calls, call.kind = kind

/-- What is logged of calls. -/
def failures (calls : List (Call β)) : List LogLine :=
  (calls.filter Call.failed).map fun call => failureLine call.kind

/-- A delivery goes on behind a listener that fails, and logs the failure; nothing that listeners ask for
changes who is told. -/
theorem deliver_told (kind : EventKind) (listeners : List β) :
    ∀ s : Session β σ, ∃ calls, Told kind listeners calls ∧
      (deliver kind (call conduct kind) s listeners).1.calls = s.calls ++ calls ∧
      (deliver kind (call conduct kind) s listeners).1.log = s.log ∧
      (deliver kind (call conduct kind) s listeners).2 = failures calls := by
  induction listeners with
  | nil => exact fun s => ⟨[], ⟨rfl, List.forall_mem_nil _⟩, (List.append_nil _).symm, rfl, rfl⟩
  | cons listener rest ih =>
    intro s
    obtain ⟨calls, htold, hcalls, hlog, hfailures⟩ := ih (s.call conduct kind listener).1
    refine ⟨⟨listener, kind, (s.call conduct kind listener).2⟩ :: calls, ⟨?_, ?_⟩, ?_, ?_, ?_⟩
    · rw [List.map_cons, htold.listeners]
    · exact List.forall_mem_cons.2 ⟨rfl, htold.kind⟩
    · show (deliver kind (call conduct kind) (s.call conduct kind listener).1 rest).1.calls = _
      rw [hcalls, calls_call conduct, List.append_assoc, List.singleton_append]
    · show (deliver kind (call conduct kind) (s.call conduct kind listener).1 rest).1.log = _
      rw [hlog, log_call conduct]
    · unfold deliver failures
      dsimp only
      rw [hfailures, List.filter_cons]
      split <;> rfl

/-- An event is heard by those who were registered when it was sent. -/
theorem emit_told (s : Session β σ) (kind : EventKind) :
    ∃ calls, Told kind s.channel.listeners calls ∧ (s.emit conduct kind).calls = s.calls ++ calls ∧
      (s.emit conduct kind).log = s.log ++ failures calls := by
  obtain ⟨calls, htold, hcalls, hlog, hfailures⟩ :=
    deliver_told conduct kind s.channel.listeners s
  refine ⟨calls, htold, hcalls, ?_⟩
  unfold emit
  dsimp only
  rw [hlog, hfailures]

/-! ## Balance at all times -/

/-- The channel is balanced, and has been all the time. -/
def Balanced (s : Session β σ) : Prop := ∀ c ∈ s.reached, c.Balanced

omit [DecidableEq β] in
theorem balanced_start (memory : σ) : Balanced { memory : Session β σ } :=
  List.forall_mem_singleton.2 .empty

namespace Balanced

theorem ask {s : Session β σ} (h : s.Balanced) (request : Request β) : (s.ask request).Balanced := by
  have hnow : s.channel.Balanced := h _ (List.mem_append_right _ List.mem_cons_self)
  intro c hc
  rcases List.mem_append.1 hc with hpast | hlast
  · exact h c hpast
  · rw [List.mem_singleton.1 hlast]
    exact hnow.serve request

theorem askAll (requests : List (Request β)) :
    ∀ {s : Session β σ}, s.Balanced → (requests.foldl Session.ask s).Balanced := by
  induction requests with
  | nil => exact id
  | cons request rest ih => exact fun h => ih (h.ask request)

theorem call {s : Session β σ} (h : s.Balanced) (kind : EventKind) (listener : β) :
    (s.call conduct kind listener).1.Balanced := by
  unfold Session.call
  exact askAll _ (s := { s with memory := _ }) h

theorem deliver (kind : EventKind) (listeners : List β) :
    ∀ {s : Session β σ}, s.Balanced →
      (Channel.deliver kind (Session.call conduct kind) s listeners).1.Balanced := by
  induction listeners with
  | nil => exact id
  | cons listener rest ih => exact fun h => ih (h.call conduct kind listener)

theorem emit {s : Session β σ} (h : s.Balanced) (kind : EventKind) : (s.emit conduct kind).Balanced :=
  h.deliver conduct kind s.channel.listeners

mutual

theorem perform {s : Session β σ} (h : s.Balanced) (act : Act β) : (s.perform conduct act).1.Balanced := by
  cases act with
  | ask request => exact h.ask request
  | emit kind => exact h.emit conduct kind
  | within handle body => exact (h.performAll body).ask (.unsubscribe handle)
  | fail => exact h

theorem performAll {s : Session β σ} (h : s.Balanced) (acts : List (Act β)) :
    (s.performAll conduct acts).1.Balanced := by
  cases acts with
  | nil => exact h
  | cons act rest =>
    have hact := h.perform act
    rw [Session.performAll]
    dsimp only
    split
    · exact hact.performAll rest
    · exact hact

end

end Balanced

end Session

/-- In every state that a channel reaches in a session there are as many registrations of each listener as it
has active handles, so the count of listeners is that of active handles.  Sending an event comes to its end,
has told everyone who was registered at its start, once for each registration and in order, and has logged the
failures. -/
theorem session_accounts [DecidableEq β] (conduct : Conduct β σ) (memory : σ) (acts : List (Act β)) :
    (∀ c ∈ (Session.performAll conduct { memory } acts).1.reached,
      (∀ b, c.listeners.count b = c.handles.countP fun s => s.active && decide (s.listener = b)) ∧
      c.count = c.handles.countP Subscription.active) ∧
    ∀ (s : Session β σ) (kind : EventKind), ∃ t calls, s.perform conduct (.emit kind) = (t, true) ∧
      t.calls = s.calls ++ calls ∧ calls.map Call.listener = s.channel.listeners ∧
      (∀ call ∈ calls, call.kind = kind) ∧ t.log = s.log ++ Session.failures calls := by
  constructor
  · intro c hc
    have hbalanced := (Session.balanced_start memory).performAll conduct acts c hc
    exact ⟨hbalanced.count_listeners, hbalanced.count_eq⟩
  · intro s kind
    obtain ⟨calls, htold, hcalls, hlog⟩ := s.emit_told conduct kind
    exact ⟨_, calls, rfl, hcalls, htold.listeners, htold.kind, hlog⟩

end StoryRules.Channel
