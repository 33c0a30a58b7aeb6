import StoryRules.Proofs.Channel

/-!
# The order of delivery

A handle takes back the first registration of its listener, which need not be its own.  So an event goes to the
latest registrations of each listener, as many as it has active handles.  That is the order in which the active
handles were subscribed up to the first time that a handle is given up while an older one of its listener is
active and another listener stands between the two.

    (serveAll {} requests).listeners = (serveAll {} requests).latestListeners
    (∀ n, (serveAll {} (requests.take n)).InOrder) ↔
      ∀ n handle, requests[n]? = some (.unsubscribe handle) → (serveAll {} (requests.take n)).Clear handle
-/

namespace StoryRules.Channel

variable {β σ : Type} [DecidableEq β]

/-! ## The latest of a list -/

/-- The latest occurrences of every member, up to its quota. -/
def keepLatest (quota : β → Nat) : List β → List β
  | [] => []
  | b :: rest => if rest.count b < quota b then b :: keepLatest quota rest else keepLatest quota rest

section

variable {quota quota' : β → Nat} {bs : List β}

/-- A quota beyond the number of occurrences is as good as that number. -/
theorem keepLatest_congr (h : ∀ b, min (bs.count b) (quota b) = min (bs.count b) (quota' b)) :
    keepLatest quota bs = keepLatest quota' bs := by
  induction bs with
  | nil => rfl
  | cons b rest ih =>
    have hrest : ∀ c, min (rest.count c) (quota c) = min (rest.count c) (quota' c) := by
      intro c
      have hc := h c
      rw [List.count_cons] at hc
      split at hc <;> omega
    have hb := h b
    rw [List.count_cons_self] at hb
    have hkept : rest.count b < quota b ↔ rest.count b < quota' b := by omega
    rw [keepLatest, keepLatest, ih hrest]
    simp only [hkept]

/-- A new member is the latest, and raises its quota by one. -/
theorem keepLatest_concat {b : β} (h : ∀ c, quota' c = quota c + if b = c then 1 else 0) :
    keepLatest quota' (bs ++ [b]) = keepLatest quota bs ++ [b] := by
  induction bs with
  | nil =>
    have hb := h b
    rw [if_pos rfl] at hb
    simp [keepLatest, hb]
  | cons c rest ih =>
    have hkept : (rest ++ [b]).count c < quota' c ↔ rest.count c < quota c := by
      rw [List.count_append, List.count_singleton, h c]
      simp only [beq_iff_eq]
      omega
    rw [List.cons_append, keepLatest, keepLatest, ih]
    simp only [hkept]
    split <;> rfl

/-- With its quota lowered by one a member loses the earliest of its latest occurrences. -/
theorem keepLatest_erase {b : β} (hpos : 0 < quota b) (hmost : quota b ≤ bs.count b)
    (h : ∀ c, quota' c = quota c - if b = c then 1 else 0) :
    keepLatest quota' bs = (keepLatest quota bs).erase b := by
  have hb := h b
  rw [if_pos rfl] at hb
  induction bs with
  | nil =>
    rw [List.count_nil] at hmost
    omega
  | cons c rest ih =>
    by_cases hcb : c = b
    · subst hcb
      rw [List.count_cons_self] at hmost
      rw [keepLatest, keepLatest]
      by_cases hkept : rest.count c < quota c
      · -- All further occurrences are kept before and after.
        have hrest : keepLatest quota' rest = keepLatest quota rest := by
          refine keepLatest_congr fun d => ?_
          by_cases hdc : d = c
          · subst hdc
            omega
          · rw [h d, if_neg (Ne.symm hdc), Nat.sub_zero]
        rw [if_neg (by omega), if_pos hkept, List.erase_cons_head, hrest]
      · rw [if_neg (by omega), if_neg hkept]
        exact ih (by omega)
    · have hc := h c
      rw [if_neg (Ne.symm hcb), Nat.sub_zero] at hc
      rw [List.count_cons_of_ne hcb] at hmost
      rw [keepLatest, keepLatest, hc, ih hmost]
      split
      · rw [List.erase_cons_tail (by simpa using hcb)]
      · rfl

end

/-! ## Who is registered -/

/-- How many active handles a listener has. -/
def activeCount (c : Channel β) (listener : β) : Nat := c.activeListeners.count listener

theorem activeCount_le (c : Channel β) (listener : β) :
    c.activeCount listener ≤ c.subscribed.count listener :=
  (List.Sublist.map _ List.filter_sublist).count_le listener

/-- The latest of those who were subscribed, of each as many as it has active handles. -/
def latestListeners (c : Channel β) : List β := keepLatest c.activeCount c.subscribed

/-- Those who are registered are the latest that were subscribed. -/
def KeepsLatest (c : Channel β) : Prop := c.listeners = c.latestListeners

namespace KeepsLatest

theorem empty : ({} : Channel β).KeepsLatest := rfl

variable {c : Channel β} (h : c.KeepsLatest)

include h

theorem subscribe (listener : β) : (c.subscribe listener).1.KeepsLatest := by
  have hquota : ∀ b, (c.subscribe listener).1.activeCount b =
      c.activeCount b + if listener = b then 1 else 0 := by
    intro b
    unfold activeCount
    rw [activeListeners_subscribe, List.count_append, List.count_singleton]
    simp only [beq_iff_eq]
  show c.listeners ++ [listener] = _
  rw [h, latestListeners, latestListeners, subscribed_subscribe]
  exact (keepLatest_concat hquota).symm

theorem unsubscribe (handle : Nat) : (c.unsubscribe handle).KeepsLatest := by
  rcases c.unsubscribe_cases handle with ⟨listener, hwithdraws⟩ | ⟨-, hsame⟩
  · obtain ⟨after, hactive, hleft⟩ := hwithdraws.active
    have hpos : 0 < c.activeCount listener := by
      unfold activeCount
      rw [hactive]
      exact List.count_pos_iff.2 (List.mem_append_right _ List.mem_cons_self)
    have hquota : ∀ b, (c.unsubscribe handle).activeCount b =
        c.activeCount b - if listener = b then 1 else 0 := by
      intro b
      unfold activeCount
      rw [hactive, hleft, List.count_append, List.count_append, List.count_cons]
      simp only [beq_iff_eq]
      omega
    show (c.unsubscribe handle).listeners = _
    rw [hwithdraws.listeners, h, latestListeners, latestListeners, hwithdraws.subscribed]
    exact (keepLatest_erase hpos (c.activeCount_le listener) hquota).symm
  · rwa [hsame]

theorem serve (request : Request β) : (c.serve request).KeepsLatest := by
  cases request with
  | subscribe listener => exact h.subscribe listener
  | unsubscribe handle => exact h.unsubscribe handle

theorem serveAll (requests : List (Request β)) : (c.serveAll requests).KeepsLatest := by
  induction requests generalizing c with
  | nil => exact h
  | cons request rest ih => exact ih (h.serve request)

end KeepsLatest

/-! ## The order of the handles -/

/-- Those who are registered are the listeners of the active handles, in the order in which these were
subscribed. -/
def InOrder (c : Channel β) : Prop := c.listeners = c.activeListeners

/-- Before an active handle no other listener's active handle comes after one of its own listener. -/
def Clear (c : Channel β) (handle : Nat) : Prop :=
  ∀ listener, c.handles[handle]? = some ⟨listener, true⟩ →
    (activeOf (c.handles.take handle)).Pairwise fun a b => a = listener → b = listener

omit [DecidableEq β] in
theorem append_cons_eq_cons_append {bs cs : List β} {b : β} :
    bs ++ b :: cs = b :: (bs ++ cs) ↔ ∀ x ∈ bs, x = b := by
  induction bs with
  | nil => simp
  | cons x rest ih =>
    rw [List.cons_append, List.cons_append, List.cons.injEq, List.forall_mem_cons]
    refine and_congr_right fun hx => ?_
    rw [hx, ih]

/-- The first of several occurrences may go in the place of a later one just if nothing else is between. -/
theorem erase_middle_iff {bs cs : List β} {b : β} :
    (bs ++ b :: cs).erase b = bs ++ cs ↔ bs.Pairwise fun x y => x = b → y = b := by
  induction bs with
  | nil => simp
  | cons x rest ih =>
    rw [List.pairwise_cons]
    by_cases hx : x = b
    · rw [hx, List.cons_append, List.erase_cons_head, List.cons_append, append_cons_eq_cons_append]
      constructor
      · intro hall
        exact ⟨fun y hy _ => hall y hy, List.pairwise_of_forall_mem_list fun _ _ y hy _ => hall y hy⟩
      · rintro ⟨hfirst, -⟩ y hy
        exact hfirst y hy rfl
    · rw [List.cons_append, List.erase_cons_tail (by simpa using hx), List.cons_append, List.cons.injEq, ih]
      simp [hx]

namespace InOrder

variable {c : Channel β} (h : c.InOrder)

include h

omit [DecidableEq β] in
theorem subscribe (listener : β) : (c.subscribe listener).1.InOrder := by
  show c.listeners ++ [listener] = _
  rw [activeListeners_subscribe, h]

/-- To unsubscribe keeps the order just if nothing is in the way. -/
theorem unsubscribe_iff (handle : Nat) : (c.unsubscribe handle).InOrder ↔ c.Clear handle := by
  rcases c.unsubscribe_cases handle with ⟨listener, hwithdraws⟩ | ⟨hinactive, hsame⟩
  · obtain ⟨after, hactive, hleft⟩ := hwithdraws.active
    have hclear : c.Clear handle ↔
        (activeOf (c.handles.take handle)).Pairwise fun a b => a = listener → b = listener := by
      refine ⟨fun hclear => hclear listener hwithdraws.wasActive, fun hpairs other hother => ?_⟩
      rw [hwithdraws.wasActive] at hother
      cases hother
      exact hpairs
    unfold InOrder
    rw [hwithdraws.listeners, h, hactive, hleft, hclear]
    exact erase_middle_iff
  · rw [hsame]
    exact ⟨fun _ listener hlistener => absurd hlistener (hinactive listener), fun _ => h⟩

end InOrder

/-- The order has been kept all along just if nothing was ever in the way. -/
theorem inOrder_throughout_iff (requests : List (Request β)) :
    ∀ {c : Channel β}, c.InOrder → ((∀ n, (c.serveAll (requests.take n)).InOrder) ↔
      ∀ n handle, requests[n]? = some (.unsubscribe handle) →
        (c.serveAll (requests.take n)).Clear handle) := by
  induction requests with
  | nil =>
    intro c h
    refine ⟨fun _ n handle hask => by simp at hask, fun _ n => ?_⟩
    rw [List.take_nil]
    exact h
  | cons request rest ih =>
    intro c h
    have hstep : (c.serve request).InOrder ↔
        ∀ handle, request = .unsubscribe handle → c.Clear handle := by
      cases request with
      | subscribe listener => exact ⟨fun _ handle hask => (nomatch hask), fun _ => h.subscribe listener⟩
      | unsubscribe handle =>
        refine (h.unsubscribe_iff handle).trans ⟨?_, fun hclear => hclear handle rfl⟩
        rintro hclear _ ⟨⟩
        exact hclear
    constructor
    · intro hall n handle hask
      cases n with
      | zero => exact hstep.1 (hall 1) handle (by simpa using hask)
      | succ n => exact (ih (hall 1)).1 (fun m => hall (m + 1)) n handle (by simpa using hask)
    · intro hclear n
      cases n with
      | zero => exact h
      | succ n =>
        have hfirst := hstep.2 fun handle hask => hclear 0 handle (by rw [hask]; rfl)
        exact (ih hfirst).2 (fun m handle hask => hclear (m + 1) handle hask) n

/-- An event goes to those who are registered, in order, and these are the latest that were subscribed, of each
listener as many as it has active handles.  In every state they are the listeners of the active handles in the
order in which these were subscribed, just if no handle is ever given up while another listener's active handle
stands between it and an older active one of its own listener. -/
theorem delivery_ordered (requests : List (Request β)) :
    (∀ (conduct : Conduct β σ) (memory : σ) (kind : EventKind),
      let c := serveAll {} requests
      (Session.emit conduct { channel := c, memory } kind).calls.map Call.listener = c.listeners ∧
        c.listeners = c.latestListeners) ∧
    ((∀ n, (serveAll ({} : Channel β) (requests.take n)).InOrder) ↔
      ∀ n handle, requests[n]? = some (.unsubscribe handle) →
        (serveAll {} (requests.take n)).Clear handle) := by
  refine ⟨fun conduct memory kind => ⟨?_, KeepsLatest.empty.serveAll requests⟩,
    inOrder_throughout_iff requests rfl⟩
  obtain ⟨calls, htold, hcalls, -⟩ :=
    Session.emit_told conduct { channel := serveAll {} requests, memory } kind
  rw [hcalls]
  exact htold.listeners

/-- With two handles of one listener around another one's, to give up the later of the two changes the order. -/
theorem delivery_reordered :
    let requests : List (Request String) := [.subscribe "ann", .subscribe "ben", .subscribe "ann", .unsubscribe 2]
    let c := serveAll {} requests
    let s : Session String Unit :=
      Session.emit (fun _ _ _ memory => { memory }) { channel := c, memory := () } .stateChanged
    c.activeListeners = ["ann", "ben"] ∧ s.calls.map Call.listener = ["ben", "ann"] := by
  decide

end StoryRules.Channel
