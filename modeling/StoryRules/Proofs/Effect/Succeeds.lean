import StoryRules.Proofs.Effect.Keeps
import StoryRules.Proofs.Number
import StoryRules.Proofs.Table

/-!
# Effects meet no fault

Two things can stop a list of effects.  One is arithmetic: an amount that cannot be added, or weights that
cannot be drawn from.  The other is a message with a number in it that is too long to be written.  An effect
makes its change before it tells of it, and tells of all that it changes to; so where the numbers of effects
and of a state can be written, effects that ask for no such arithmetic come to an end at any depth of their
loot tables, whatever is drawn, unless they leave a state with a number that cannot.  Whether the numbers of
the effects can be written is kept beside the state, as a proposition `short`.

    AllAmountsIn Addable Drawable effects → (short → AllLegible effects) →
      Succeeds (Scene.Legible short story) (applyAll story effects)      (applyAll_succeeds)
-/

namespace StoryRules

variable {α : Type} [Number α]

/-- An amount can be added to every other. -/
def Number.Addable (value : α) : Prop := ∀ a, ∃ total, Number.add a value = .ok total

theorem Number.Exact.addable (arithmetic : Number.Exact fun _ : α => True) (value : α) :
    Number.Addable value := by
  intro a
  obtain ⟨total, htotal, -⟩ := arithmetic.add a value trivial trivial
  exact ⟨total, htotal⟩

namespace Draw

/-- A draw can be made from weights, whatever is drawn. -/
def Drawable (weights : List α) : Prop := ∀ draws, ∃ r, (pick weights draws).1 = .ok r

theorem settle_ok {P : α → Prop} {weights : List α}
    (hsub : ∀ weight ∈ weights, ∀ roll, P roll → ∃ left, Number.sub roll weight = .ok left ∧ P left) :
    ∀ (i : Nat) (roll : α), P roll → ∃ r, settle i roll weights = .ok r := by
  induction weights with
  | nil => exact fun _ _ _ => ⟨none, rfl⟩
  | cons weight rest ih =>
    have ih := ih fun w hw => hsub w (List.mem_cons_of_mem _ hw)
    intro i roll hroll
    rw [settle]
    split
    · exact ih (i + 1) roll hroll
    · obtain ⟨left, hleft, hrest⟩ := hsub weight List.mem_cons_self roll hroll
      rw [hleft]
      show ∃ r, (if Number.atMost left (Number.whole 0) = true then _ else _) = _
      split
      · exact ⟨some i, rfl⟩
      · exact ih (i + 1) left hrest

/-- A draw can be turned into a position if it can be scaled, and if each weight can be taken off. -/
theorem position_ok {P : α → Prop} {weights : List α} {total draw roll : α}
    (hmul : Number.mul draw total = .ok roll) (hroll : P roll)
    (hsub : ∀ weight ∈ weights, ∀ roll, P roll → ∃ left, Number.sub roll weight = .ok left ∧ P left) :
    ∃ r, position weights total draw = .ok r := by
  obtain ⟨r, hr⟩ := settle_ok hsub 0 roll hroll
  unfold position
  rw [hmul]
  show ∃ r, (settle 0 roll weights >>= _) = .ok r
  rw [hr]
  cases r <;> exact ⟨_, rfl⟩

/-- A draw can be made if the weights have a sum, if that can be scaled, and if each weight can be taken
off. -/
theorem drawable_of {weights : List α} {total : α}
    (hsum : Number.sum (weights.map positivePart) = .ok total)
    (hmul : ∀ draw, ∃ roll, Number.mul draw total = .ok roll)
    (hsub : ∀ weight ∈ weights.map positivePart, ∀ roll, ∃ left, Number.sub roll weight = .ok left) :
    Drawable weights := by
  intro draws
  unfold pick
  dsimp only
  rw [hsum]
  dsimp only
  split
  · exact ⟨none, rfl⟩
  · obtain ⟨roll, hroll⟩ := hmul draws.next.1
    refine position_ok (P := fun _ => True) hroll trivial fun weight hweight roll _ => ?_
    obtain ⟨left, hleft⟩ := hsub weight hweight roll
    exact ⟨left, hleft, trivial⟩

/-- A draw can be made from any exact weights. -/
theorem drawable_of_exact (arithmetic : Number.Exact fun _ : α => True) (weights : List α) :
    Drawable weights := by
  obtain ⟨total, hsum, -⟩ := arithmetic.sum fun a (_ : a ∈ weights.map positivePart) => trivial
  refine drawable_of hsum (fun draw => ?_) fun weight _ roll => ?_
  · obtain ⟨c, hc, -⟩ := arithmetic.mul draw total trivial trivial
    exact ⟨c, hc⟩
  · obtain ⟨c, hc, -⟩ := arithmetic.sub roll weight trivial trivial
    exact ⟨c, hc⟩

end Draw

/-- What effects may have to tell of a state can be written: every quantity, and every amount, that of a stat
which is not held being the one at its start. -/
structure State.Legible (story : Story α) (s : State α) : Prop where
  item : ∀ id, Number.Legible (Number.whole (s.quantity id) : α)
  currency : ∀ id, Number.Legible (s.currency id)
  stat : ∀ id stat, story.stat? id = some stat →
    Number.Legible ((s.stats.get? id).getD stat.start)

theorem State.Legible.visit {story : Story α} {s : State α} (h : s.Legible story) (node : String) :
    (s.visit node).Legible story := by
  unfold State.visit
  split
  · exact h
  · exact ⟨h.item, h.currency, h.stat⟩

theorem State.Legible.openProgress {story : Story α} {s : State α} (h : s.Legible story)
    (puzzle : String) : (s.openProgress puzzle).Legible story := by
  unfold State.openProgress
  split
  · exact h
  · exact ⟨h.item, h.currency, h.stat⟩

/-- The numbers in the state of a scene can be written, and so can those that `short` is about. -/
structure Scene.Legible (short : Prop) (story : Story α) (scene : Scene α) : Prop where
  short : short
  state : scene.state.Legible story

theorem State.legible [LegibleNumber α] (story : Story α) (s : State α) : s.Legible story where
  item _ := LegibleNumber.legible _
  currency _ := LegibleNumber.legible _
  stat _ _ _ := LegibleNumber.legible _

namespace Effect

section

variable {β : Type} {value value' : β → Prop} {weights weights' : List β → Prop}

/-- What is asked of the amount that an effect adds, or of the weights that it draws from. -/
def AmountsIn (value : β → Prop) (weights : List β → Prop) : Effect β → Prop
  | addCurrency _ v => value v
  | addStat _ v => value v
  | lootTable table => weights (table.map Weighted.weight)
  | _ => True

/-- The same of all effects of a list, nested ones included. -/
def AllAmountsIn (value : β → Prop) (weights : List β → Prop) (effects : List (Effect β)) : Prop :=
  ∀ e ∈ walk effects, e.AmountsIn value weights

theorem AllAmountsIn.mono (hvalue : ∀ v, value v → value' v)
    (hweights : ∀ ws, weights ws → weights' ws) {effects : List (Effect β)}
    (h : AllAmountsIn value weights effects) : AllAmountsIn value' weights' effects := by
  intro e he
  have he := h e he
  cases e with
  | addCurrency currency v => exact hvalue v he
  | addStat stat v => exact hvalue v he
  | lootTable table => exact hweights _ he
  | _ => trivial

end

/-- The whole numbers that an effect names can be written. -/
def Legible : Effect α → Prop
  | addItem _ n | removeItem _ n => Number.Legible (Number.whole n : α)
  | unlockChoice _ n | lockChoice _ n => Number.Legible (Number.whole n : α)
  | setTimer _ n => Number.Legible (Number.whole n : α)
  | _ => True

/-- Those of all effects of a list can, nested ones included. -/
def AllLegible (effects : List (Effect α)) : Prop := ∀ e ∈ walk effects, e.Legible

theorem legible [LegibleNumber α] (e : Effect α) : e.Legible := by
  cases e with
  | addItem _ _ | removeItem _ _ | unlockChoice _ _ | lockChoice _ _ | setTimer _ _ =>
    exact LegibleNumber.legible _
  | _ => trivial

theorem allLegible [LegibleNumber α] (effects : List (Effect α)) : AllLegible effects :=
  fun e _ => e.legible

/-! ## Messages -/

/-- A message is given just if `p`; if not, a number is too long for it. -/
structure Written (message : Except Fault String) (p : Prop) : Prop where
  given : p → ∃ text, message = .ok text
  withheld : ¬ p → message = .error .unwritable

namespace Written

theorem number (a : α) : Written (Number.text a) (Number.Legible a) :=
  ⟨Number.text_of_legible, Number.text_of_not_legible⟩

theorem whole (n : Int) : Written (Number.wholeText α n) (Number.Legible (Number.whole n : α)) := number _

variable {message message' : Except Fault String} {p q : Prop}

omit [Number α] in
theorem ok (text : String) : Written (.ok text) True := ⟨fun _ => ⟨text, rfl⟩, fun h => absurd trivial h⟩

omit [Number α] in
theorem map (h : Written message p) (f : String → String) : Written (message.map f) p where
  given hp := by
    obtain ⟨text, rfl⟩ := h.given hp
    exact ⟨f text, rfl⟩
  withheld hp := by
    rw [h.withheld hp]
    rfl

omit [Number α] in
theorem told (h : Written message p) (h' : Written message' q) (words : String → String → String) :
    Written (told message message' words) (p ∧ q) where
  given hpq := by
    obtain ⟨first, rfl⟩ := h.given hpq.1
    obtain ⟨second, rfl⟩ := h'.given hpq.2
    exact ⟨words first second, rfl⟩
  withheld hpq := by
    by_cases hp : p
    · obtain ⟨first, rfl⟩ := h.given hp
      rw [h'.withheld fun hq => hpq ⟨hp, hq⟩]
      rfl
    · rw [h.withheld hp]
      rfl

omit [Number α] in
theorem ok_iff (h : Written message p) : (∃ text, message = .ok text) ↔ p := by
  refine ⟨?_, h.given⟩
  rintro ⟨text, rfl⟩
  by_cases hp : p
  · exact hp
  · cases h.withheld hp

end Written

/-- A message in front of a step is given where what it names can be written. -/
theorem Written.succeeds {σ : Type} {P : σ → Prop} {message : Except Fault String} {p : Prop}
    (hwritten : Written message p) (hp : ∀ s, P s → p) : Succeeds P (liftM message : Step σ String) := by
  by_cases h : p
  · exact .lift (hwritten.given h)
  · rw [hwritten.withheld h]
    exact fun s => .inr ⟨s, rfl, fun hs => absurd (hp s hs) h⟩

/-! ## Single effects -/

variable {story : Story α} {short : Prop}

/-- A change of the state and what is told of it: the change is kept, and the message is given just if `p`. -/
theorem alter_ends {f : State α → State α} {message : Except Fault String} {p : Prop} {scene : Scene α}
    (hwritten : Written message p) (hgiven : scene.Legible short story → p → (f scene.state).Legible story)
    (hwithheld : scene.Legible short story → ¬ p → ¬ (f scene.state).Legible story) :
    SucceedsFrom (Scene.Legible short story) (alter f message) scene := by
  unfold SucceedsFrom
  rw [alter_run]
  by_cases hp : p
  · obtain ⟨text, rfl⟩ := hwritten.given hp
    exact .inl ⟨_, _, rfl, fun hs => ⟨hs.short, hgiven hs hp⟩⟩
  · rw [hwritten.withheld hp]
    exact .inr ⟨_, rfl, fun hs hafter => hwithheld hs hp hafter.state⟩

/-- A change that no message tells a number of. -/
theorem alter_succeeds {f : State α → State α} {message : Except Fault String} {p : Prop}
    (hwritten : Written message p) (hp : short → p) (hf : ∀ s, s.Legible story → (f s).Legible story) :
    Succeeds (Scene.Legible short story) (alter f message) :=
  fun scene => alter_ends hwritten (fun hs _ => hf scene.state hs.state) fun hs h => absurd (hp hs.short) h

theorem fail_succeeds (line : LogLine) : Succeeds (Scene.Legible short story) (fail line) := by
  unfold fail
  exact Succeeds.bind (Succeeds.update fun _ hs => ⟨hs.short, hs.state⟩) fun _ => .pure _

theorem changeItem_succeeds {id : String} {asked delta : Int} {words : Item → String → String → String}
    (hasked : short → Number.Legible (Number.whole asked : α)) :
    Succeeds (Scene.Legible short story) (changeItem story id asked delta words) := by
  unfold changeItem
  split
  · exact fail_succeeds _
  · next item _ =>
    refine Succeeds.seeing fun scene => ?_
    refine alter_ends ((Written.number _).told (.number _) _) (fun hs h => ?_)
      fun hs h hafter => h ⟨hasked hs.short, ?_⟩
    · refine ⟨fun other => ?_, hs.state.currency, hs.state.stat⟩
      unfold State.quantity
      rw [Table.get?_put]
      split
      · exact h.2
      · exact hs.state.item other
    · have hitem := hafter.item id
      unfold State.quantity at hitem
      rwa [Table.get?_put, if_pos rfl] at hitem

theorem changeCurrency_succeeds {id : String} {value : α} (h : Number.Addable value) :
    Succeeds (Scene.Legible short story) (changeCurrency id value) := by
  refine Succeeds.seeing fun scene => ?_
  obtain ⟨total, htotal⟩ := h (scene.state.currency id)
  dsimp only
  rw [htotal, orFault]
  refine .given (alter_ends ((Written.number _).told (.number _) _) (fun hs h => ?_)
    fun hs h hafter => h ⟨hs.state.currency id, ?_⟩)
  · refine ⟨hs.state.item, fun other => ?_, hs.state.stat⟩
    unfold State.currency
    rw [Table.get?_put]
    split
    · exact h.2
    · exact hs.state.currency other
  · have hcurrency := hafter.currency id
    unfold State.currency at hcurrency
    rwa [Table.get?_put, if_pos rfl] at hcurrency

theorem changeStat_succeeds {id : String} {value : α} (h : Number.Addable value) :
    Succeeds (Scene.Legible short story) (changeStat story id value) := by
  unfold changeStat
  split
  · exact fail_succeeds _
  · next stat hstat =>
    refine Succeeds.seeing fun scene => ?_
    obtain ⟨total, htotal⟩ := h ((scene.state.stats.get? id).getD stat.start)
    dsimp only
    rw [htotal, orFault]
    refine .given (alter_ends ((Written.number _).told (.number _) _) (fun hs h => ?_)
      fun hs h hafter => h ⟨hs.state.stat id stat hstat, ?_⟩)
    · refine ⟨hs.state.item, hs.state.currency, fun other found hfound => ?_⟩
      rw [Table.get?_put]
      split
      · exact h.2
      · exact hs.state.stat other found hfound
    · have hstat := hafter.stat id stat hstat
      rwa [Table.get?_put, if_pos rfl] at hstat

theorem applySimple_succeeds {e : Effect α} (h : e.AmountsIn Number.Addable Draw.Drawable)
    (hlegible : short → e.Legible) : Succeeds (Scene.Legible short story) (applySimple story e) := by
  cases e with
  | addItem id quantity =>
    unfold applySimple
    exact changeItem_succeeds hlegible
  | removeItem id quantity =>
    unfold applySimple
    exact changeItem_succeeds hlegible
  | addCurrency id value => exact changeCurrency_succeeds h
  | addStat id value => exact changeStat_succeeds h
  | setFlag name value =>
    unfold applySimple
    exact alter_succeeds (.ok _) (fun _ => trivial) fun _ hs => ⟨hs.item, hs.currency, hs.stat⟩
  | log message => exact Succeeds.pure _
  | goto target => exact Succeeds.pure _
  | unlockChoice node index =>
    unfold applySimple
    exact alter_succeeds ((Written.number _).map _) hlegible fun _ hs => ⟨hs.item, hs.currency, hs.stat⟩
  | lockChoice node index =>
    unfold applySimple
    exact alter_succeeds ((Written.number _).map _) hlegible fun _ hs => ⟨hs.item, hs.currency, hs.stat⟩
  | setTimer timer duration =>
    unfold applySimple
    refine Succeeds.read fun scene => ?_
    refine Succeeds.bind (Succeeds.update fun _ hs => ⟨hs.short, hs.state⟩) fun _ => ?_
    exact alter_succeeds ((Written.number _).map _) hlegible fun _ hs => ⟨hs.item, hs.currency, hs.stat⟩
  | lootTable table => exact Succeeds.pure _

/-! ## Lists -/

theorem applyFrom_succeeds {effects : List (Effect α)}
    (h : ∀ e ∈ effects,
      Succeeds (Scene.Legible short story) (applyOne story e)) :
    ∀ report, Succeeds (Scene.Legible short story)
      (applyFrom story report effects) := by
  induction effects with
  | nil =>
    intro report
    rw [applyFrom]
    exact Succeeds.pure _
  | cons e rest ih =>
    intro report
    rw [applyFrom]
    refine (h e List.mem_cons_self).bind fun next => ?_
    exact ih (fun x hx => h x (List.mem_cons_of_mem _ hx)) _

theorem applyEntry_succeeds {table : List (LootEntry α)}
    (h : ∀ entry ∈ table, ∀ e ∈ entry.item,
      Succeeds (Scene.Legible short story) (applyOne story e)) :
    ∀ i, Succeeds (Scene.Legible short story)
      (applyEntry story table i) := by
  induction table with
  | nil =>
    intro i
    rw [applyEntry]
    exact Succeeds.pure _
  | cons entry rest ih =>
    intro i
    cases i with
    | zero =>
      rw [applyEntry]
      exact applyFrom_succeeds (h entry List.mem_cons_self) _
    | succ i =>
      rw [applyEntry]
      exact ih (fun x hx => h x (List.mem_cons_of_mem _ hx)) i

theorem drawEntry_succeeds {table : List (LootEntry α)}
    (h : Draw.Drawable (table.map Weighted.weight)) :
    Succeeds (Scene.Legible short story) (drawEntry table) := by
  exact Succeeds.seeing fun scene =>
    Succeeds.replacing (fun hs => ⟨hs.short, hs.state⟩) (.lift (h scene.draws))

theorem applyOne_succeeds (e : Effect α) :
    (∀ x ∈ walkOne e, x.AmountsIn Number.Addable Draw.Drawable ∧ (short → x.Legible)) →
      Succeeds (Scene.Legible short story) (applyOne story e) := by
  induction e using Effect.nested with
  | simple e hsimple =>
    intro h
    rw [applyOne_of_simple hsimple]
    obtain ⟨hamounts, hlegible⟩ := h e (mem_walkOne_self e)
    exact applySimple_succeeds hamounts hlegible
  | loot table ih =>
    intro h
    rw [applyOne]
    split
    · exact fail_succeeds _
    · refine (drawEntry_succeeds (h _ (mem_walkOne_self _)).1).bind fun drawn => ?_
      cases drawn with
      | none => exact fail_succeeds _
      | some i =>
        refine (applyEntry_succeeds (fun entry hentry e he => ?_) i).bind fun _ => .pure _
        exact ih entry hentry e he fun x hx => h x (mem_walkOne_loot hentry he hx)

/-- Effects that add and draw from what they can meet no fault but that of a number too long to be written, and
not even that as long as their numbers and those of the state can be. -/
theorem applyAll_succeeds (story : Story α) {effects : List (Effect α)}
    (h : AllAmountsIn Number.Addable Draw.Drawable effects) (hlegible : short → AllLegible effects) :
    Succeeds (Scene.Legible short story) (applyAll story effects) := by
  refine applyFrom_succeeds (fun e he => applyOne_succeeds e fun x hx => ?_) _
  have hmem : x ∈ walk effects := mem_walk.2 ⟨e, he, hx⟩
  exact ⟨h x hmem, fun hshort => hlegible hshort x hmem⟩

end Effect

end StoryRules
