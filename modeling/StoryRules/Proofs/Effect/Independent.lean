import StoryRules.Proofs.Effect.Attempts
import StoryRules.Proofs.Effect.Cells
import StoryRules.Proofs.Effect.Pairs
import StoryRules.Proofs.Effect.Succeeds
import StoryRules.Proofs.Engine.Catalog

/-!
# Independent effects commute

What a single effect does and reports depends on the story, on the cell that it names and on the time alone.  So
two lists of effects that name no cell in common do the same whichever goes first, as long as the clock stands
still: each list has the same report in both orders, and every cell reads the same in the end.  Where amounts are
exact, both orders come to their end, or both stop at a number that is too long to be written.

    Apart xs ys → applyBoth story xs ys and applyBoth story ys xs report and end alike      (applyBoth_comm)
-/

namespace StoryRules

variable {α : Type}

/-- The amounts in a state are exact. -/
structure State.ExactAmounts (exact : α → Prop) (s : State α) : Prop where
  currency : ∀ entry ∈ s.currencies, exact entry.2
  stat : ∀ entry ∈ s.stats, exact entry.2

namespace Effect

/-- A cell is named by an effect of a list. -/
def Names (effects : List (Effect α)) (c : Cell) : Prop := ∃ e ∈ effects, e.cell? = some c

/-- No cell is named in both of two lists. -/
def Apart (xs ys : List (Effect α)) : Prop := ∀ c, Names xs c → ¬ Names ys c

instance (xs ys : List (Effect α)) : Decidable (Apart xs ys) :=
  decidable_of_iff (∀ x ∈ xs, ∀ y ∈ ys, x.cell? = none ∨ x.cell? ≠ y.cell?) <| by
    constructor
    · rintro h c ⟨x, hx, hxc⟩ ⟨y, hy, hyc⟩
      rcases h x hx y hy with hnone | hne
      · rw [hnone] at hxc
        cases hxc
      · exact hne (hxc.trans hyc.symm)
    · intro h x hx y hy
      cases hc : x.cell? with
      | none => exact .inl rfl
      | some c => exact .inr fun hyc => h c ⟨x, hx, hc⟩ ⟨y, hy, hyc.symm⟩

theorem Apart.symm {xs ys : List (Effect α)} (h : Apart xs ys) : Apart ys xs :=
  fun c hy hx => h c hx hy

variable [Number α]

/-- Applies two lists of effects, one after the other. -/
def applyBoth (story : Story α) (xs ys : List (Effect α)) : Run α (EffectReport × EffectReport) := do
  let first ← applyAll story xs
  let second ← applyAll story ys
  return (first, second)

/-! ## What effects depend on -/

/-- At the same time, some cells read alike in two scenes. -/
structure Alike (cells : Cell → Prop) (now : Int) (s t : Scene α) : Prop where
  reads : ∀ c, cells c → s.state.read c = t.state.read c
  left : ∀ n, s.clock.value n = now
  right : ∀ n, t.clock.value n = now

section

variable {cells : Cell → Prop} {now : Int} {story : Story α} {effects : List (Effect α)}

omit [Number α] in
/-- Scenes stay alike where one cell is written in both. -/
theorem Alike.written {s t : Scene α} (h : Alike cells now s t) {s' t' : State α} {c : Cell} {v : Reading α}
    (hs : s.state.Writes s' c v) (ht : t.state.Writes t' c v) :
    Alike cells now { s with state := s' } { t with state := t' } where
  reads cell hcell := by
    show s'.read cell = t'.read cell
    rw [hs, ht, h.reads cell hcell]
  left := h.left
  right := h.right

omit [Number α] in
theorem Alike.timed {s t : Scene α} (h : Alike cells now s t) {timer : String} {duration : Int} :
    Alike cells now (s.timed timer duration) (t.timed timer duration) where
  reads cell hcell := by
    have hs := s.state.writes_timer timer (s.clock.value s.clock.used + duration) cell
    have ht := t.state.writes_timer timer (t.clock.value t.clock.used + duration) cell
    refine hs.trans (Eq.trans ?_ ht.symm)
    rw [h.left, h.right, h.reads cell hcell]
  left := h.left
  right := h.right

omit [Number α] in
theorem fail_alike (line : LogLine) :
    Agrees (Alike cells now) (fail line : Run α EffectReport) (fail line) :=
  Agrees.bind (Agrees.update fun _ _ h => ⟨h.reads, h.left, h.right⟩) fun _ => .pure _

omit [Number α] in
theorem alter_alike {f : State α → State α} {c : Cell} {v : Reading α} (hf : ∀ s : State α, s.Writes (f s) c v)
    (message : Except Fault String) : Agrees (Alike cells now) (alter f message) (alter f message) := by
  intro s t h
  rw [alter_run, alter_run]
  exact ⟨rfl, h.written (hf s.state) (hf t.state)⟩

theorem changeItem_alike {id : String} {asked delta : Int} {words : Item → String → String → String}
    (hcell : cells (.item id)) :
    Agrees (Alike cells now) (changeItem story id asked delta words) (changeItem story id asked delta words) := by
  unfold changeItem
  split
  · exact fail_alike _
  · refine Agrees.get_bind fun s t h => ?_
    have hquantity : s.state.quantity id = t.state.quantity id :=
      congrArg (·.getD 0) (Reading.whole.inj (h.reads _ hcell))
    rw [hquantity]
    exact alter_alike (fun s => s.writes_item id _) _

theorem changeCurrency_alike {id : String} {value : α} (hcell : cells (.currency id)) :
    Agrees (Alike cells now) (changeCurrency id value) (changeCurrency id value) := by
  unfold changeCurrency
  refine Agrees.get_bind fun s t h => ?_
  have hcurrency : s.state.currency id = t.state.currency id :=
    congrArg (·.getD (Number.whole 0)) (Reading.amount.inj (h.reads _ hcell))
  rw [hcurrency]
  refine Agrees.bind (Agrees.lift _) fun total => ?_
  exact alter_alike (fun s => s.writes_currency id _) _

theorem changeStat_alike {id : String} {value : α} (hcell : cells (.stat id)) :
    Agrees (Alike cells now) (changeStat story id value) (changeStat story id value) := by
  unfold changeStat
  split
  · exact fail_alike _
  · refine Agrees.get_bind fun s t h => ?_
    have hstat : s.state.stats.get? id = t.state.stats.get? id := Reading.amount.inj (h.reads _ hcell)
    rw [hstat]
    refine Agrees.bind (Agrees.lift _) fun total => ?_
    exact alter_alike (fun s => s.writes_stat id _) _

/-- Of a state a single effect looks at the cell that it names. -/
theorem applySimple_alike (story : Story α) {e : Effect α} (h : ∀ c, e.cell? = some c → cells c) :
    Agrees (Alike cells now) (applySimple story e) (applySimple story e) := by
  cases e with
  | addItem id quantity =>
    unfold applySimple
    exact changeItem_alike (h _ rfl)
  | removeItem id quantity =>
    unfold applySimple
    exact changeItem_alike (h _ rfl)
  | addCurrency id value => exact changeCurrency_alike (h _ rfl)
  | addStat id value => exact changeStat_alike (h _ rfl)
  | setFlag name value =>
    unfold applySimple
    exact alter_alike (fun s => s.writes_flag name value) _
  | unlockChoice node index =>
    unfold applySimple
    exact alter_alike (fun s => s.writes_unlock node index) _
  | lockChoice node index =>
    unfold applySimple
    exact alter_alike (fun s => s.writes_lock node index) _
  | setTimer timer duration =>
    intro s t hst
    rw [setTimer_run, setTimer_run]
    exact ⟨rfl, hst.timed⟩
  | log message => exact .pure _
  | goto target => exact .pure _
  | lootTable table => exact .pure _

/-- Effects without loot tables look at the cells that they name. -/
theorem applyAll_alike (story : Story α) (hsimple : ∀ e ∈ effects, e.isLoot = false)
    (h : ∀ c, Names effects c → cells c) :
    Agrees (Alike cells now) (applyAll story effects) (applyAll story effects) := by
  refine applyFrom_agrees (fun e he => ?_) _
  rw [applyOne_of_simple (isLoot_eq_false.1 (hsimple e he))]
  exact applySimple_alike story fun c hc => h c ⟨e, he, hc⟩

end

/-! ## Either order -/

section

variable {story : Story α} {effects xs ys : List (Effect α)} {now : Int} {scene : Scene α}

omit [Number α] in
theorem walk_of_simple (hsimple : ∀ e ∈ effects, e.isLoot = false) : walk effects = effects := by
  induction effects with
  | nil => rfl
  | cons e rest ih =>
    have he := hsimple e List.mem_cons_self
    rw [walk, ih fun x hx => hsimple x (List.mem_cons_of_mem _ hx)]
    cases e with
    | lootTable table => cases he
    | _ => rfl

/-- A cell that is not named reads as before. -/
theorem read_of_run (hsimple : ∀ e ∈ effects, e.isLoot = false) {s t : Scene α}
    {result : Except Fault EffectReport} (hrun : (applyAll story effects).run s = (result, t)) {c : Cell}
    (hc : ¬ Names effects c) : t.state.read c = s.state.read c := by
  have hunnamed : ∀ e ∈ walk effects, e.cell? ≠ some c := by
    rw [walk_of_simple hsimple]
    exact fun e he hcell => hc ⟨e, he, hcell⟩
  have hread := applyAll_read story hunnamed s
  rwa [hrun] at hread

/-- Effects do the same in scenes where the cells that they name read alike. -/
theorem run_alike (hsimple : ∀ e ∈ effects, e.isLoot = false) {s t after : Scene α} {report : EffectReport}
    (h : Alike (Names effects) now s t) (hrun : (applyAll story effects).run s = (.ok report, after)) :
    ∃ other, (applyAll story effects).run t = (.ok report, other) ∧ Alike (Names effects) now after other := by
  obtain ⟨hresult, hafter⟩ := applyAll_alike story hsimple (fun _ hc => hc) s t h
  rcases hother : (applyAll story effects).run t with ⟨result, other⟩
  rw [hrun, hother] at hresult hafter
  cases hresult
  exact ⟨other, rfl, hafter⟩

/-- Two lists of effects that name no cell in common report together what each of them reports alone. -/
theorem applyBoth_reports (hx : ∀ e ∈ xs, e.isLoot = false) (hy : ∀ e ∈ ys, e.isLoot = false)
    (hapart : Apart xs ys) (hclock : ∀ n, scene.clock.value n = now) :
    ((applyBoth story xs ys).run scene).1 =
      ((applyAll story xs).run scene).1 >>= fun first =>
        ((applyAll story ys).run scene).1 >>= fun second => .ok (first, second) := by
  unfold applyBoth
  rw [Step.run_bind]
  rcases hxs : (applyAll story xs).run scene with ⟨_ | first, middle⟩
  · rfl
  · obtain ⟨_, -, hmiddle⟩ := run_alike hx ⟨fun _ _ => rfl, hclock, hclock⟩ hxs
    have hsame : ((applyAll story ys).run middle).1 = ((applyAll story ys).run scene).1 :=
      (applyAll_alike story hy (fun _ hc => hc) middle scene
        ⟨fun c hc => read_of_run hx hxs (hapart.symm c hc), hmiddle.left, hclock⟩).1
    rw [← hsame]
    dsimp only
    rw [Step.run_bind]
    rcases (applyAll story ys).run middle with ⟨_ | second, last⟩ <;> rfl

/-- If two lists of effects that name no cell in common come to their end in one order, they do so in the other
one, with the same reports and the same readings. -/
theorem applyBoth_swap (hx : ∀ e ∈ xs, e.isLoot = false) (hy : ∀ e ∈ ys, e.isLoot = false)
    (hapart : Apart xs ys) (hclock : ∀ n, scene.clock.value n = now) {first second : EffectReport}
    {last : Scene α} (h : (applyBoth story xs ys).run scene = (.ok (first, second), last)) :
    ∃ other, (applyBoth story ys xs).run scene = (.ok (second, first), other) ∧
      ∀ c, last.state.read c = other.state.read c := by
  obtain ⟨_, middle, hxs, h⟩ := Step.run_bind_eq_ok.1 h
  obtain ⟨_, _, hys, ⟨⟩⟩ := Step.run_bind_eq_ok.1 h
  -- what `ys` name was not written by `xs`, so it does not matter that these went first
  obtain ⟨_, -, hmiddle⟩ := run_alike hx ⟨fun _ _ => rfl, hclock, hclock⟩ hxs
  obtain ⟨between, hys', hlast⟩ := run_alike hy
    ⟨fun c hc => read_of_run hx hxs (hapart.symm c hc), hmiddle.left, hclock⟩ hys
  obtain ⟨other, hxs', hother⟩ := run_alike hx
    ⟨fun c hc => (read_of_run hy hys' (hapart c hc)).symm, hclock, hlast.right⟩ hxs
  refine ⟨other, Step.run_bind_eq_ok.2 ⟨_, _, hys', Step.run_bind_eq_ok.2 ⟨_, _, hxs', rfl⟩⟩, fun c => ?_⟩
  by_cases hcx : Names xs c
  · rw [read_of_run hy hys (hapart c hcx), hother.reads c hcx]
  · rw [read_of_run hx hxs' hcx]
    by_cases hcy : Names ys c
    · exact hlast.reads c hcy
    · rw [read_of_run hy hys hcy, read_of_run hx hxs hcx, read_of_run hy hys' hcy]

end

/-! ## Exact amounts -/

/-- A result is there, unless there are numbers that cannot be written and one of them was met. -/
def Concludes (α : Type) [Number α] {β : Type} (result : Except Fault β) : Prop :=
  (∃ b, result = .ok b) ∨ result = .error .unwritable ∧ ∃ a : α, ¬ Number.Legible a

theorem illegible_of_not_and {a b : α} (h : ¬ (Number.Legible a ∧ Number.Legible b)) :
    ∃ c : α, ¬ Number.Legible c := by
  by_cases ha : Number.Legible a
  · exact ⟨b, fun hb => h ⟨ha, hb⟩⟩
  · exact ⟨a, ha⟩

/-- A change is told of, unless it is told with a number that cannot be written. -/
theorem alter_concludes {f : State α → State α} {message : Except Fault String} {p : Prop} {scene : Scene α}
    (hwritten : Written message p) (hp : ¬ p → ∃ a : α, ¬ Number.Legible a) :
    Concludes α ((alter f message).run scene).1 := by
  rw [alter_run]
  by_cases h : p
  · obtain ⟨text, rfl⟩ := hwritten.given h
    exact .inl ⟨_, rfl⟩
  · rw [hwritten.withheld h]
    exact .inr ⟨rfl, hp h⟩

theorem changeItem_concludes {story : Story α} {id : String} {asked delta : Int}
    {words : Item → String → String → String} {scene : Scene α} :
    Concludes α ((changeItem story id asked delta words).run scene).1 := by
  unfold changeItem
  split
  · exact .inl ⟨_, rfl⟩
  · rw [Step.run_get_bind]
    exact alter_concludes ((Written.whole _).told (.whole _) _) illegible_of_not_and

/-- A value that has a sum with the current amount is added and told of. -/
theorem added_concludes {current value total : α} (hsum : Number.add current value = .ok total)
    {f : α → State α → State α} {kept : α → α} {words : String → String → String} {scene : Scene α} :
    Concludes α ((orFault (Number.add current value) >>= fun total =>
      alter (f total) (told (Number.text current) (Number.text (kept total)) words)).run scene).1 := by
  rw [hsum, orFault, Step.run_ok_bind]
  exact alter_concludes ((Written.number _).told (.number _) _) illegible_of_not_and

section

variable {exact : α → Prop} {story : Story α} {effects xs ys : List (Effect α)} {scene : Scene α}

theorem exact_larger {a b : α} (ha : exact a) (hb : exact b) : exact (Number.larger a b) := by
  unfold Number.larger
  split
  · exact hb
  · exact ha

theorem exact_smaller {a b : α} (ha : exact a) (hb : exact b) : exact (Number.smaller a b) := by
  unfold Number.smaller
  split
  · exact hb
  · exact ha

theorem exact_currency (arithmetic : Number.Exact exact) {s : State α} (hs : s.ExactAmounts exact)
    (id : String) : exact (s.currency id) := by
  unfold State.currency
  cases hget : s.currencies.get? id with
  | none => exact arithmetic.whole 0
  | some amount => exact hs.currency _ (Table.mem_of_get? hget)

omit [Number α] in
theorem exact_stat {s : State α} (hs : s.ExactAmounts exact) (id : String) {start : α}
    (hstart : exact start) : exact ((s.stats.get? id).getD start) := by
  cases hget : s.stats.get? id with
  | none => exact hstart
  | some amount => exact hs.stat _ (Table.mem_of_get? hget)

variable (arithmetic : Number.Exact exact) (hstats : story.ExactStats exact)

include arithmetic hstats

/-- Exact amounts stay exact if exact amounts are added. -/
theorem Change.exactAmounts {e : Effect α} (he : e.AmountsIn exact fun _ => True) {s t : State α}
    (hs : s.ExactAmounts exact) (h : Change story s e t) : t.ExactAmounts exact := by
  cases h with
  | currency htotal =>
    obtain ⟨_, hsum, hexact⟩ := arithmetic.add _ _ (exact_currency arithmetic hs _) he
    cases htotal.symm.trans hsum
    refine ⟨fun entry hentry => ?_, hs.stat⟩
    rcases Table.mem_put hentry with rfl | hentry
    · exact exact_larger (arithmetic.whole 0) hexact
    · exact hs.currency entry hentry
  | stat hstat htotal =>
    obtain ⟨hmin, hstart, hmax⟩ := hstats _ (List.mem_of_find?_eq_some hstat)
    obtain ⟨_, hsum, hexact⟩ := arithmetic.add _ _ (exact_stat hs _ hstart) he
    cases htotal.symm.trans hsum
    refine ⟨hs.currency, fun entry hentry => ?_⟩
    rcases Table.mem_put hentry with rfl | hentry
    · exact exact_larger hmin (exact_smaller hmax hexact)
    · exact hs.stat entry hentry
  | _ => exact ⟨hs.currency, hs.stat⟩

/-- A single effect that adds exact amounts to exact ones is made. -/
theorem applySimple_exact {e : Effect α} (he : e.AmountsIn exact fun _ => True)
    (hs : scene.state.ExactAmounts exact) :
    Concludes α ((applySimple story e).run scene).1 ∧
      ((applySimple story e).run scene).2.state.ExactAmounts exact := by
  have singles : Singles (fun now : Scene α => now.state.ExactAmounts exact) fun _ => True :=
    ⟨fun _ _ h => h, fun _ _ => trivial⟩
  have hkeeps : Keeps (fun now : Scene α => now.state.ExactAmounts exact) (applySimple story e) fun _ => True :=
    singles.applySimple ⟨fun _ _ h hchange => hchange.exactAmounts arithmetic hstats he h,
      fun _ _ h _ => h, fun _ _ _ _ => trivial⟩
  refine ⟨?_, (hkeeps scene hs).1⟩
  cases e with
  | addItem id n =>
    unfold applySimple
    exact changeItem_concludes
  | removeItem id n =>
    unfold applySimple
    exact changeItem_concludes
  | addCurrency id value =>
    obtain ⟨total, hsum, -⟩ := arithmetic.add _ _ (exact_currency arithmetic hs id) he
    rw [applySimple, changeCurrency, Step.run_get_bind]
    exact added_concludes hsum
  | addStat id value =>
    rw [applySimple, changeStat]
    split
    · exact .inl ⟨_, rfl⟩
    · next stat hstat =>
      have hstart := (hstats _ (List.mem_of_find?_eq_some hstat)).2.1
      obtain ⟨total, hsum, -⟩ := arithmetic.add _ _ (exact_stat hs id hstart) he
      rw [Step.run_get_bind]
      exact added_concludes hsum
  | lockChoice node index | unlockChoice node index =>
    rw [applySimple]
    exact alter_concludes ((Written.whole (α := α) index).map _) fun h => ⟨_, h⟩
  | setTimer timer duration =>
    rw [applySimple, Step.run_get_bind]
    dsimp only
    rw [Step.run_update_bind]
    exact alter_concludes ((Written.whole (α := α) duration).map _) fun h => ⟨_, h⟩
  | _ => exact .inl ⟨_, rfl⟩

/-- So are lists of effects without loot tables. -/
theorem applyAll_exact (hsimple : ∀ e ∈ effects, e.isLoot = false)
    (hamounts : ∀ e ∈ effects, e.AmountsIn exact fun _ => True) (hs : scene.state.ExactAmounts exact) :
    Concludes α ((applyAll story effects).run scene).1 := by
  unfold applyAll
  generalize ({} : EffectReport) = report
  induction effects generalizing report scene with
  | nil =>
    rw [applyFrom]
    exact .inl ⟨report, rfl⟩
  | cons e rest ih =>
    have hone := isLoot_eq_false.1 (hsimple e List.mem_cons_self)
    obtain ⟨hconcludes, hmiddle⟩ :=
      applySimple_exact arithmetic hstats (hamounts e List.mem_cons_self) hs
    rw [applyFrom, applyOne_of_simple hone, Step.run_bind]
    rcases hrun : (applySimple story e).run scene with ⟨_ | next, middle⟩
    · rw [hrun] at hconcludes
      obtain ⟨_, ⟨⟩⟩ | ⟨⟨⟩, hlong⟩ := hconcludes
      exact .inr ⟨rfl, hlong⟩
    · rw [hrun] at hmiddle
      exact ih (fun x hx => hsimple x (List.mem_cons_of_mem _ hx))
        (fun x hx => hamounts x (List.mem_cons_of_mem _ hx)) hmiddle (report.absorb next)

/-- Two lists of effects without loot tables that name no item, currency, stat, flag, timer or lock in common
come to their end in both orders, if the clock stands still and amounts are exact, and each list has the same
report in both orders.  So together they succeed or not, and all lookups find the same in the end.  The exception
are numbers that cannot be written: where one of the lists stops at such a number by itself, both orders do. -/
theorem applyBoth_comm {now : Int} (hclock : ∀ n, scene.clock.value n = now)
    (hs : scene.state.ExactAmounts exact) (hx : ∀ e ∈ xs, e.isLoot = false)
    (hy : ∀ e ∈ ys, e.isLoot = false) (hamounts : ∀ e ∈ xs ++ ys, e.AmountsIn exact fun _ => True)
    (hapart : Apart xs ys) :
    (∃ first second last other, (applyBoth story xs ys).run scene = (.ok (first, second), last) ∧
      (applyBoth story ys xs).run scene = (.ok (second, first), other) ∧
      (first.absorb second).success = (second.absorb first).success ∧
      ∀ c, last.state.read c = other.state.read c) ∨
    ((applyBoth story xs ys).run scene).1 = .error .unwritable ∧
      ((applyBoth story ys xs).run scene).1 = .error .unwritable ∧
      (((applyAll story xs).run scene).1 = .error .unwritable ∨
        ((applyAll story ys).run scene).1 = .error .unwritable) ∧ ∃ a : α, ¬ Number.Legible a := by
  obtain ⟨hxs, hys⟩ := List.forall_mem_append.1 hamounts
  have hboth : ((applyBoth story xs ys).run scene).1 = _ := applyBoth_reports hx hy hapart hclock
  have hswapped : ((applyBoth story ys xs).run scene).1 = _ := applyBoth_reports hy hx hapart.symm hclock
  obtain ⟨first, hfirst⟩ | ⟨hfirst, hlong⟩ := applyAll_exact arithmetic hstats hx hxs hs
  · obtain ⟨second, hsecond⟩ | ⟨hsecond, hlong⟩ := applyAll_exact arithmetic hstats hy hys hs
    · rw [hfirst, hsecond] at hboth
      obtain ⟨other, hother, hreads⟩ := applyBoth_swap hx hy hapart hclock (Prod.ext hboth rfl)
      refine .inl ⟨first, second, _, other, Prod.ext hboth rfl, hother, ?_, hreads⟩
      rw [absorb_success, absorb_success, Bool.and_comm]
    · rw [hboth, hswapped, hfirst, hsecond]
      exact .inr ⟨rfl, rfl, .inr rfl, hlong⟩
  · rw [hboth, hswapped, hfirst]
    obtain ⟨second, hsecond⟩ | ⟨hsecond, -⟩ := applyAll_exact arithmetic hstats hy hys hs
    · rw [hsecond]
      exact .inr ⟨rfl, rfl, .inl rfl, hlong⟩
    · rw [hsecond]
      exact .inr ⟨rfl, rfl, .inl rfl, hlong⟩

end

/-- Some luck, something that is not in the catalogs, and a lock. -/
def gains : List (Effect Amount) := [.addStat "luck" (.int 9), .addItem "ghost" 1, .lockChoice "gate" 0]

/-- Some gold off, a timer, and another lock of the same node. -/
def losses : List (Effect Amount) :=
  [.lockChoice "gate" 1, .addCurrency "gold" (.int (-1)), .setTimer "lamp" 50, .unlockChoice "gate" 2]

theorem gains_losses_comm :
    let scene : Scene Amount :=
      { state := State.initial .riddle none, draws := .always (.int 0), clock := .always 1000 }
    Apart gains losses ∧
      ∃ first second last other, (applyBoth Story.riddle gains losses).run scene = (.ok (first, second), last) ∧
        (applyBoth Story.riddle losses gains).run scene = (.ok (second, first), other) ∧
        (first.absorb second).success = (second.absorb first).success ∧
        ∀ c, last.state.read c = other.state.read c := by
  intro scene
  have hapart : Apart gains losses := by decide
  have hstats : Story.riddle.ExactStats Amount.IsWhole := by
    intro t ht
    cases List.mem_singleton.1 ht
    exact ⟨⟨0, rfl⟩, ⟨5, rfl⟩, ⟨10, rfl⟩⟩
  have hamounts : ∀ e ∈ gains ++ losses, e.AmountsIn Amount.IsWhole fun _ => True := by
    simp [gains, losses, AmountsIn, Amount.IsWhole]
  have hexact : scene.state.ExactAmounts Amount.IsWhole := ⟨by decide +kernel, by decide +kernel⟩
  have hreturns : ((applyBoth Story.riddle gains losses).run scene).1.toOption.isSome = true := by
    decide +kernel
  refine ⟨hapart, (applyBoth_comm Amount.exact hstats (fun _ => rfl) hexact (by decide) (by decide) hamounts
    hapart).resolve_right ?_⟩
  rintro ⟨hfault, -⟩
  rw [hfault] at hreturns
  cases hreturns

end Effect

end StoryRules
