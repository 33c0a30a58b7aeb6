import StoryRules.Fault

/-!
# What a step keeps

A step works on a state and may meet a fault; what it did up to the fault stays done.  `Keeps P x Q`
says that `x` leads from states with `P` to states with `P`, faults included, and gives only values
with `Q`.  `Agrees R x y` compares two steps: from states that `R` relates they give the same value or
meet the same fault, and end in states that `R` relates.  `Succeeds P x` says that only one
fault is met, that of a number too long to be written, and from states with `P` only on leaving them.

    Keeps P x R → (∀ c, R c → Keeps P (f c) Q) → Keeps P (x >>= f) Q      (Keeps.bind)
    Agrees R x y → (∀ c, Agrees R (f c) (g c)) → Agrees R (x >>= f) (y >>= g)      (Agrees.bind)
-/

namespace StoryRules

/-- A step on states `σ` that gives a `β` or meets a fault. -/
abbrev Step (σ β : Type) := ExceptT Fault (StateM σ) β

variable {σ β γ : Type}

/-! ## Runs -/

theorem bind_eq_ok {x : Except Fault γ} {f : γ → Except Fault β} {b : β} :
    x >>= f = .ok b ↔ ∃ c, x = .ok c ∧ f c = .ok b := by
  constructor
  · intro h
    cases x with
    | error e => cases h
    | ok c => exact ⟨c, rfl, h⟩
  · rintro ⟨c, rfl, h⟩
    exact h

theorem map_eq_ok {x : Except Fault γ} {f : γ → β} {b : β} :
    x.map f = .ok b ↔ ∃ c, x = .ok c ∧ f c = b := by
  constructor
  · intro h
    cases x with
    | error e => cases h
    | ok c => exact ⟨c, rfl, Except.ok.inj h⟩
  · rintro ⟨c, rfl, rfl⟩
    rfl

namespace Step

theorem run_bind (x : Step σ γ) (f : γ → Step σ β) (s : σ) :
    (x >>= f).run s = match x.run s with
      | (.ok c, t) => (f c).run t
      | (.error e, t) => (.error e, t) := by
  rw [ExceptT.run_bind]
  rcases h : x.run s with ⟨r, t⟩
  cases r with
  | ok c => simp [Bind.bind, StateT.bind, h]
  | error e =>
    simp [Bind.bind, StateT.bind, h]
    rfl

theorem run_map (f : γ → β) (x : Step σ γ) (s : σ) :
    (f <$> x).run s = match x.run s with
      | (.ok c, t) => (.ok (f c), t)
      | (.error e, t) => (.error e, t) := by
  rw [ExceptT.run_map]
  rcases h : x.run s with ⟨r, t⟩
  cases r <;> simp [Functor.map, StateT.map, h] <;> rfl

theorem run_map_snd (f : γ → β) (x : Step σ γ) (s : σ) : ((f <$> x).run s).2 = (x.run s).2 := by
  rw [run_map]
  rcases x.run s with ⟨_ | c, t⟩ <;> rfl

/-- Steps that are made one after the other end well if each of them does. -/
theorem run_bind_eq_ok {x : Step σ γ} {f : γ → Step σ β} {s t : σ} {b : β} :
    (x >>= f).run s = (.ok b, t) ↔ ∃ c u, x.run s = (.ok c, u) ∧ (f c).run u = (.ok b, t) := by
  rw [run_bind]
  constructor
  · intro h
    rcases hx : x.run s with ⟨_ | c, u⟩
    · rw [hx] at h
      cases h
    · rw [hx] at h
      exact ⟨c, u, rfl, h⟩
  · rintro ⟨c, u, hx, h⟩
    rw [hx]
    exact h

theorem run_map_eq_ok {f : γ → β} {x : Step σ γ} {s t : σ} {b : β} :
    (f <$> x).run s = (.ok b, t) ↔ ∃ c, x.run s = (.ok c, t) ∧ f c = b := by
  rw [run_map]
  constructor
  · intro h
    rcases hx : x.run s with ⟨_ | c, u⟩
    · rw [hx] at h
      cases h
    · rw [hx] at h
      cases h
      exact ⟨c, rfl, rfl⟩
  · rintro ⟨c, hx, rfl⟩
    rw [hx]

theorem run_get (s : σ) : (get : Step σ σ).run s = (.ok s, s) := rfl

/-- A step that looks at the state first goes on with what it saw. -/
theorem run_get_bind (f : σ → Step σ β) (s : σ) : (get >>= f).run s = (f s).run s := rfl

/-- A step that updates the state first goes on from there. -/
theorem run_update_bind (f : σ → σ) (x : Step σ β) (s : σ) :
    (modify f >>= fun _ => x).run s = x.run (f s) := rfl

theorem run_lift (r : Except Fault β) (s : σ) : (liftM r : Step σ β).run s = (r, s) := by
  cases r <;> rfl

/-- A step before steps that always give a value ends well just if the two do together. -/
theorem run_bind_ok_iff {x : Step σ γ} {f : γ → Step σ β} (hf : ∀ c s, ∃ b t, (f c).run s = (.ok b, t))
    (s : σ) : (∃ b t, (x >>= f).run s = (.ok b, t)) ↔ ∃ c t, x.run s = (.ok c, t) := by
  constructor
  · rintro ⟨b, t, h⟩
    obtain ⟨c, u, hx, -⟩ := run_bind_eq_ok.1 h
    exact ⟨c, u, hx⟩
  · rintro ⟨c, u, hx⟩
    obtain ⟨b, t, h⟩ := hf c u
    exact ⟨b, t, run_bind_eq_ok.2 ⟨c, u, hx, h⟩⟩

/-- A value that is there is gone on with. -/
theorem run_ok_bind (c : γ) (f : γ → Step σ β) (s : σ) :
    ((liftM (Except.ok c : Except Fault γ) : Step σ γ) >>= f).run s = (f c).run s := rfl

end Step

/-! ## Keeping a property -/

/-- A step keeps `P`, also where it meets a fault, and gives only values with `Q`. -/
def Keeps (P : σ → Prop) (x : Step σ β) (Q : β → Prop) : Prop :=
  ∀ s, P s → P (x.run s).2 ∧ ∀ b, (x.run s).1 = .ok b → Q b

namespace Keeps

variable {P : σ → Prop} {Q : β → Prop} {R : γ → Prop}

theorem pure {b : β} (h : Q b) : Keeps P (Pure.pure b) Q := by
  intro s hs
  refine ⟨hs, ?_⟩
  rintro c ⟨⟩
  exact h

theorem bind {x : Step σ γ} {f : γ → Step σ β} (hx : Keeps P x R)
    (hf : ∀ c, R c → Keeps P (f c) Q) : Keeps P (x >>= f) Q := by
  intro s hs
  obtain ⟨hP, hR⟩ := hx s hs
  rw [Step.run_bind]
  rcases h : x.run s with ⟨r, t⟩
  rw [h] at hP hR
  cases r with
  | ok c => exact hf c (hR c rfl) t hP
  | error e => exact ⟨hP, by rintro b ⟨⟩⟩

theorem mono {Q' : β → Prop} {x : Step σ β} (hx : Keeps P x Q) (h : ∀ b, Q b → Q' b) :
    Keeps P x Q' := by
  intro s hs
  obtain ⟨hP, hQ⟩ := hx s hs
  exact ⟨hP, fun b hb => h b (hQ b hb)⟩

theorem map {f : γ → β} {x : Step σ γ} (hx : Keeps P x R) (h : ∀ c, R c → Q (f c)) :
    Keeps P (f <$> x) Q := by
  rw [map_eq_pure_bind]
  exact hx.bind fun c hc => .pure (h c hc)

theorem get : Keeps P MonadState.get P := by
  intro s hs
  refine ⟨hs, ?_⟩
  rintro t ⟨⟩
  exact hs

/-- A step that looks at the state first may rely on what it saw. -/
theorem read {f : σ → Step σ β}
    (h : ∀ s, P s → P ((f s).run s).2 ∧ ∀ b, ((f s).run s).1 = .ok b → Q b) :
    Keeps P (MonadState.get >>= f) Q := h

theorem set {t : σ} (h : P t) : Keeps P (MonadStateOf.set t) fun _ => True :=
  fun _ _ => ⟨h, fun _ _ => trivial⟩

theorem update {f : σ → σ} (h : ∀ s, P s → P (f s)) :
    Keeps P (modify f) fun _ => True :=
  fun s hs => ⟨h s hs, fun _ _ => trivial⟩

theorem throw {e : Fault} : Keeps P (MonadExcept.throw e) Q := by
  intro s hs
  exact ⟨hs, by rintro b ⟨⟩⟩

theorem lift {r : Except Fault β} (h : ∀ b, r = .ok b → Q b) : Keeps P (liftM r) Q := by
  intro s hs
  rw [Step.run_lift]
  exact ⟨hs, h⟩

end Keeps

/-! ## Agreeing -/

/-- From states that `R` relates two steps end alike: with the same value or fault, in states that `R`
relates. -/
def Agrees (R : σ → σ → Prop) (x y : Step σ β) : Prop :=
  ∀ s t, R s t → (x.run s).1 = (y.run t).1 ∧ R (x.run s).2 (y.run t).2

namespace Agrees

variable {R : σ → σ → Prop}

theorem pure (b : β) : Agrees R (Pure.pure b) (Pure.pure b) := fun _ _ h => ⟨rfl, h⟩

theorem bind {x y : Step σ γ} {f g : γ → Step σ β} (hx : Agrees R x y)
    (hf : ∀ c, Agrees R (f c) (g c)) : Agrees R (x >>= f) (y >>= g) := by
  intro s t h
  obtain ⟨e, hR⟩ := hx s t h
  rw [Step.run_bind, Step.run_bind]
  rcases hs : x.run s with ⟨r, s'⟩
  rcases ht : y.run t with ⟨q, t'⟩
  rw [hs, ht] at e hR
  subst e
  cases r with
  | ok c => exact hf c s' t' hR
  | error e => exact ⟨rfl, hR⟩

/-- Steps that look at the state may do different things with it. -/
theorem get_bind {f g : σ → Step σ β} (h : ∀ s t, R s t → Agrees R (f s) (g t)) :
    Agrees R (get >>= f) (get >>= g) := fun s t hR => h s t hR s t hR

theorem map {f : γ → β} {x y : Step σ γ} (hx : Agrees R x y) :
    Agrees R (f <$> x) (f <$> y) := by
  rw [map_eq_pure_bind, map_eq_pure_bind]
  exact hx.bind fun c => .pure (f c)

theorem set {s t : σ} (h : R s t) :
    Agrees R (MonadStateOf.set s) (MonadStateOf.set t) := fun _ _ _ => ⟨rfl, h⟩

theorem update {f g : σ → σ} (h : ∀ s t, R s t → R (f s) (g t)) :
    Agrees R (modify f) (modify g) := fun s t hR => ⟨rfl, h s t hR⟩

theorem throw (e : Fault) :
    Agrees R (MonadExcept.throw e : Step σ β) (MonadExcept.throw e) := fun _ _ h => ⟨rfl, h⟩

theorem lift (r : Except Fault β) : Agrees R (liftM r) (liftM r) := by
  intro s t h
  rw [Step.run_lift, Step.run_lift]
  exact ⟨rfl, h⟩

end Agrees

/-! ## Meeting no fault -/

/-- From a state a step gives a value, or it stops at a number that is too long for a message.  If the state has
`P`, the step leaves one with `P` if it gives a value, and one without `P` if it stops. -/
def SucceedsFrom (P : σ → Prop) (x : Step σ β) (s : σ) : Prop :=
  (∃ b t, x.run s = (.ok b, t) ∧ (P s → P t)) ∨ ∃ t, x.run s = (.error .unwritable, t) ∧ (P s → ¬ P t)

/-- A step does so from every state. -/
def Succeeds (P : σ → Prop) (x : Step σ β) : Prop := ∀ s, SucceedsFrom P x s

namespace SucceedsFrom

variable {P : σ → Prop}

theorem pure (b : β) (s : σ) : SucceedsFrom P (Pure.pure b : Step σ β) s := .inl ⟨b, s, rfl, id⟩

theorem bind {x : Step σ γ} {f : γ → Step σ β} {s : σ} (hx : SucceedsFrom P x s)
    (hf : ∀ c t, x.run s = (.ok c, t) → SucceedsFrom P (f c) t) : SucceedsFrom P (x >>= f) s := by
  unfold SucceedsFrom
  rw [Step.run_bind]
  obtain ⟨c, t, hc, ht⟩ | ⟨t, hfault, ht⟩ := hx
  · rw [hc]
    obtain ⟨b, u, hb, hu⟩ | ⟨u, hfault, hu⟩ := hf c t hc
    · exact .inl ⟨b, u, hb, fun hs => hu (ht hs)⟩
    · exact .inr ⟨u, hfault, fun hs => hu (ht hs)⟩
  · rw [hfault]
    exact .inr ⟨t, rfl, ht⟩

/-- A value that is there is gone on with. -/
theorem given {c : γ} {f : γ → Step σ β} {s : σ} (h : SucceedsFrom P (f c) s) :
    SucceedsFrom P ((liftM (Except.ok c : Except Fault γ) : Step σ γ) >>= f) s := h

end SucceedsFrom

namespace Succeeds

variable {P : σ → Prop}

theorem pure (b : β) : Succeeds P (Pure.pure b : Step σ β) := SucceedsFrom.pure b

theorem bind {x : Step σ γ} {f : γ → Step σ β} (hx : Succeeds P x) (hf : ∀ c, Succeeds P (f c)) :
    Succeeds P (x >>= f) := fun s => (hx s).bind fun c t _ => hf c t

theorem map {f : γ → β} {x : Step σ γ} (hx : Succeeds P x) : Succeeds P (f <$> x) := by
  rw [map_eq_pure_bind]
  exact hx.bind fun c => .pure (f c)

/-- A step that looks at the state first. -/
theorem read {f : σ → Step σ β} (h : ∀ s, Succeeds P (f s)) :
    Succeeds P (MonadState.get >>= f) := fun s => h s s

/-- A step that looks at the state first may rely on what it saw. -/
theorem seeing {f : σ → Step σ β} (h : ∀ s, SucceedsFrom P (f s) s) : Succeeds P (MonadState.get >>= f) := h

/-- What follows goes on from another state. -/
theorem replacing {x : Step σ β} {s t : σ} (h : P s → P t) (hx : Succeeds P x) :
    SucceedsFrom P (MonadStateOf.set t >>= fun _ => x : Step σ β) s :=
  .bind (.inl ⟨⟨⟩, t, rfl, h⟩) fun _ u _ => hx u

theorem update {f : σ → σ} (h : ∀ s, P s → P (f s)) : Succeeds P (modify f : Step σ PUnit) :=
  fun s => .inl ⟨⟨⟩, f s, rfl, h s⟩

theorem lift {r : Except Fault β} (h : ∃ b, r = .ok b) : Succeeds P (liftM r : Step σ β) := by
  intro s
  obtain ⟨b, rfl⟩ := h
  exact .inl ⟨b, s, rfl, id⟩

/-- Where `P` holds of every state, nothing keeps a step from giving a value. -/
theorem returns {x : Step σ β} (hx : Succeeds P x) (hP : ∀ s, P s) (s : σ) :
    ∃ b t, x.run s = (.ok b, t) := by
  obtain ⟨b, t, hb, -⟩ | ⟨t, -, ht⟩ := hx s
  · exact ⟨b, t, hb⟩
  · exact absurd (hP t) (ht (hP s))

end Succeeds

end StoryRules
