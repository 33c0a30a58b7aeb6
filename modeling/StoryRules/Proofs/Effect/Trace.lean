import StoryRules.Proofs.Amount
import StoryRules.Proofs.Effect.Keeps
import StoryRules.Proofs.Effect.Pairs
import StoryRules.Proofs.Validation.Sound

/-!
# Traces of effects

A nested list of effects means the flat list that is left when each loot table is replaced by the
effects of the entry drawn for it.  `Executes draws effects executed` says which effects are executed
with given draws, the loot tables among them, each in front of what is drawn from it; a table uses up
the first draw that is left just if one of its weights is above zero.  The trace is what was executed
without the tables.

    (applyAll story effects).run scene = (.ok report, after) →
      ∃ draws executed, Traced story effects scene after report.goto draws executed

where `Traced` says that the draws were taken from the feed in this order, that the state is the left
fold of the effects of the trace, and that the jump is the first one of the trace.
-/

namespace StoryRules.Effect

variable {α : Type} [Number α]

def isLoot : Effect α → Bool
  | .lootTable _ => true
  | _ => false

/-- Whether an effect is a loot table with something to draw. -/
def rolls : Effect α → Bool
  | .lootTable table => (table.map Weighted.weight).any Number.isPositive
  | _ => false

/-- The effects that a list comes to with given draws, in the order in which they are executed. -/
inductive Executes : List α → List (Effect α) → List (Effect α) → Prop
  | done : Executes [] [] []
  | single {draws : List α} {e : Effect α} {rest executed : List (Effect α)} :
    e.isLoot = false → Executes draws rest executed →
    Executes draws (e :: rest) (e :: executed)
  | nothing {draws : List α} {table : List (LootEntry α)} {rest executed : List (Effect α)} :
    (lootTable table).rolls = false → Executes draws rest executed →
    Executes draws (lootTable table :: rest) (lootTable table :: executed)
  | drawn {draw : α} {inner later : List α} {table : List (LootEntry α)} {i : Nat}
    {entry : LootEntry α} {rest nested executed : List (Effect α)} :
    (lootTable table).rolls = true → Draw.Selects (table.map Weighted.weight) draw i →
    table[i]? = some entry → Executes inner entry.item nested → Executes later rest executed →
    Executes (draw :: (inner ++ later)) (lootTable table :: rest)
      (lootTable table :: (nested ++ executed))

/-- What is left of the executed effects without the loot tables. -/
def trace (executed : List (Effect α)) : List (Effect α) := executed.filter (!·.isLoot)

omit [Number α] in
theorem isLoot_of_mem_trace (executed : List (Effect α)) : ∀ e ∈ trace executed, e.isLoot = false := by
  intro e he
  simpa using (List.mem_filter.1 he).2

/-- What one effect makes of a scene. -/
def perform (story : Story α) (scene : Scene α) (e : Effect α) : Except Fault (Scene α) :=
  match (applyOne story e).run scene with
  | (.ok _, after) => .ok after
  | (.error fault, _) => .error fault

/-! ## Executed effects -/

namespace Executes

theorem append {xs ys : List (Effect α)} {draws later : List α} {executed more : List (Effect α)}
    (hx : Executes draws xs executed) (hy : Executes later ys more) :
    Executes (draws ++ later) (xs ++ ys) (executed ++ more) := by
  induction hx with
  | done => exact hy
  | single hsimple _ ih => exact .single hsimple ih
  | nothing hrolls _ ih => exact .nothing hrolls ih
  | drawn hrolls hselects hentry hnested _ _ ih =>
    rw [List.cons_append, List.append_assoc, List.cons_append, List.cons_append, List.append_assoc]
    exact .drawn hrolls hselects hentry hnested ih

/-- One draw is used up for each executed table that has something to draw. -/
theorem length_draws {draws : List α} {effects executed : List (Effect α)}
    (h : Executes draws effects executed) : draws.length = (executed.filter rolls).length := by
  induction h with
  | done => rfl
  | @single _ e _ _ hsimple _ ih =>
    have hrolls : e.rolls = false := by
      cases e with
      | lootTable table => cases hsimple
      | _ => rfl
    rw [List.filter_cons, hrolls]
    exact ih
  | nothing hrolls _ ih =>
    rw [List.filter_cons, hrolls]
    exact ih
  | drawn hrolls _ _ _ _ ihnested ih =>
    rw [List.filter_cons, if_pos hrolls, List.length_cons, List.length_cons, List.filter_append,
      List.length_append, List.length_append, ihnested, ih]

/-- The draws decide what is executed, and how many of them are used up. -/
theorem unique {draws : List α} {effects executed : List (Effect α)}
    (h : Executes draws effects executed) :
    ∀ {others unused left : List α} {executed' : List (Effect α)},
      Executes others effects executed' → draws ++ unused = others ++ left →
      draws = others ∧ executed = executed' ∧ unused = left := by
  induction h with
  | done =>
    intro others unused left executed' h' heq
    cases h'
    exact ⟨rfl, rfl, heq⟩
  | single hsimple _ ih =>
    intro others unused left executed' h' heq
    cases h' with
    | single _ h' =>
      obtain ⟨hdraws, hexecuted, hleft⟩ := ih h' heq
      exact ⟨hdraws, by rw [hexecuted], hleft⟩
    | nothing => cases hsimple
    | drawn => cases hsimple
  | nothing hrolls _ ih =>
    intro others unused left executed' h' heq
    cases h' with
    | single hsimple => cases hsimple
    | nothing _ h' =>
      obtain ⟨hdraws, hexecuted, hleft⟩ := ih h' heq
      exact ⟨hdraws, by rw [hexecuted], hleft⟩
    | drawn hrolls' =>
      rw [hrolls] at hrolls'
      cases hrolls'
  | drawn hrolls hselects hentry _ _ ihnested ih =>
    intro others unused left executed' h' heq
    cases h' with
    | single hsimple => cases hsimple
    | nothing hrolls' =>
      rw [hrolls] at hrolls'
      cases hrolls'
    | drawn _ hselects' hentry' hnested' h' =>
      rw [List.cons_append, List.cons_append, List.append_assoc, List.append_assoc] at heq
      obtain ⟨rfl, htail⟩ := List.cons.inj heq
      cases hselects.unique hselects'
      rw [hentry] at hentry'
      cases hentry'
      obtain ⟨rfl, rfl, hlater⟩ := ihnested hnested' htail
      obtain ⟨rfl, rfl, hleft⟩ := ih h' hlater
      exact ⟨rfl, rfl, hleft⟩

end Executes

/-! ## Single effects -/

omit [Number α] in
theorem isLoot_eq_false {e : Effect α} : e.isLoot = false ↔ ∀ table, e ≠ lootTable table := by
  constructor
  · rintro h table rfl
    cases h
  · intro h
    cases e with
    | lootTable table => exact absurd rfl (h table)
    | _ => rfl

/-- Scenes with the same state and the same readings of the clock ahead. -/
def SameWorld (s t : Scene α) : Prop := s.state = t.state ∧ s.clock = t.clock

omit [Number α] in
theorem sameWorld_pairs : Pairs (SameWorld (α := α)) where
  sees h := congrArg State.holdings h.1
  held held h := ⟨congrArg (State.holding · held) h.1, h.2⟩
  noted _ h := h
  timed := by
    rintro ⟨state, draws, clock, log⟩ ⟨_, draws', _, log'⟩ timer duration ⟨rfl, rfl⟩
    exact ⟨rfl, rfl⟩

variable {story : Story α}

/-- A single effect draws nothing, and its report asks for a jump just if the effect does. -/
theorem applySimple_keeps (story : Story α) (e : Effect α) (draws : Feed α) :
    Keeps (fun scene : Scene α => scene.draws = draws) (applySimple story e)
      fun report => report.goto = e.target? := by
  cases htarget : e.target? with
  | some target =>
    cases e with
    | goto id => exact Keeps.pure htarget
    | _ => cases htarget
  | none =>
    have singles : Singles (fun scene : Scene α => scene.draws = draws)
        fun report => report.goto = none := ⟨fun _ _ h => h, fun _ h => h⟩
    refine singles.applySimple ⟨fun _ _ h _ => h, fun _ _ h _ => h, ?_⟩
    rintro target rfl
    cases htarget

/-! ## Runs -/

/-- What a list of effects comes to that leads from one scene to another and asks for a jump. -/
structure Traced (story : Story α) (effects : List (Effect α)) (scene after : Scene α)
    (goto : Option String) (draws : List α) (executed : List (Effect α)) : Prop where
  executes : Executes draws effects executed
  taken : draws = scene.draws.taken draws.length
  left : after.draws = scene.draws.skip draws.length
  folds : ∃ last, (trace executed).foldlM (perform story) scene = .ok last ∧
    last.state = after.state ∧ last.clock = after.clock
  goto_eq : goto = (trace executed).findSome? target?

theorem SameWorld.foldlM {s t s' : Scene α} {effects : List (Effect α)}
    (hsimple : ∀ e ∈ effects, e.isLoot = false) (hst : SameWorld s t)
    (h : effects.foldlM (perform story) s = .ok s') :
    ∃ t', effects.foldlM (perform story) t = .ok t' ∧ SameWorld s' t' := by
  induction effects generalizing s t with
  | nil =>
    cases h
    exact ⟨t, rfl, hst⟩
  | cons e rest ih =>
    rw [List.foldlM_cons] at h
    obtain ⟨next, hnext, h⟩ := bind_eq_ok.1 h
    have hone := isLoot_eq_false.1 (hsimple e List.mem_cons_self)
    obtain ⟨hresult, hworld⟩ := sameWorld_pairs.applySimple story e s t hst
    rw [List.foldlM_cons]
    unfold perform at hnext ⊢
    rw [applyOne_of_simple hone] at hnext ⊢
    rcases hs : (applySimple story e).run s with ⟨_ | report, s₁⟩
    · rw [hs] at hnext
      cases hnext
    · rw [hs] at hnext hresult hworld
      cases hnext
      rcases ht : (applySimple story e).run t with ⟨_ | report', t₁⟩
      · rw [ht] at hresult
        cases hresult
      · rw [ht] at hworld
        exact ih (fun x hx => hsimple x (List.mem_cons_of_mem _ hx)) hworld h

namespace Traced

theorem nil (scene : Scene α) : Traced story [] scene scene none [] [] where
  executes := .done
  taken := rfl
  left := rfl
  folds := ⟨scene, rfl, rfl, rfl⟩
  goto_eq := rfl

theorem append {xs ys : List (Effect α)} {scene middle after : Scene α} {goto later : Option String}
    {draws more : List α} {executed follow : List (Effect α)}
    (hx : Traced story xs scene middle goto draws executed)
    (hy : Traced story ys middle after later more follow) :
    Traced story (xs ++ ys) scene after (goto.or later) (draws ++ more) (executed ++ follow) := by
  have htrace : trace (executed ++ follow) = trace executed ++ trace follow := List.filter_append ..
  refine ⟨hx.executes.append hy.executes, ?taken, ?left, ?folds, ?goto⟩
  case taken =>
    have htaken := hy.taken
    rw [hx.left] at htaken
    rw [List.length_append, Feed.taken_add, ← hx.taken, ← htaken]
  case left => rw [hy.left, hx.left, Feed.skip_skip, List.length_append]
  case folds =>
    obtain ⟨last, hlast, hworld⟩ := hx.folds
    obtain ⟨end', hend, hsame⟩ := hy.folds
    obtain ⟨final, hfinal, hstate, hclock⟩ :=
      SameWorld.foldlM (isLoot_of_mem_trace follow) (t := last) ⟨hworld.1.symm, hworld.2.symm⟩ hend
    refine ⟨final, ?_, hstate ▸ hsame.1, hclock ▸ hsame.2⟩
    rw [htrace, List.foldlM_append, hlast]
    exact hfinal
  case goto =>
    rw [htrace, List.findSome?_append, hx.goto_eq, hy.goto_eq]

/-- What a run comes to is decided by the draws ahead. -/
theorem unique {effects : List (Effect α)} {scene after : Scene α} {goto : Option String}
    {draws others : List α} {executed executed' : List (Effect α)}
    (h : Traced story effects scene after goto draws executed)
    (h' : Executes others effects executed') (hothers : others = scene.draws.taken others.length) :
    others = draws ∧ executed' = executed := by
  have hprefix : others ++ (scene.draws.skip others.length).taken draws.length =
      draws ++ (scene.draws.skip draws.length).taken others.length := by
    calc others ++ (scene.draws.skip others.length).taken draws.length
        = scene.draws.taken others.length ++ (scene.draws.skip others.length).taken draws.length := by
          rw [← hothers]
      _ = scene.draws.taken draws.length ++ (scene.draws.skip draws.length).taken others.length := by
          rw [← Feed.taken_add, ← Feed.taken_add, Nat.add_comm]
      _ = draws ++ (scene.draws.skip draws.length).taken others.length := by rw [← h.taken]
  obtain ⟨hdraws, hexecuted, -⟩ := h'.unique h.executes hprefix
  exact ⟨hdraws, hexecuted⟩

theorem simple {e : Effect α} (hsimple : e.isLoot = false) {scene after : Scene α}
    {report : EffectReport} (h : (applyOne story e).run scene = (.ok report, after)) :
    Traced story [e] scene after report.goto [] [e] := by
  have htrace : trace [e] = [e] := by
    rw [trace, List.filter_cons_of_pos (by rw [hsimple]; rfl), List.filter_nil]
  have hrun := h
  rw [applyOne_of_simple (isLoot_eq_false.1 hsimple)] at hrun
  obtain ⟨hdraws, hgoto⟩ := applySimple_keeps story e scene.draws scene rfl
  rw [hrun] at hdraws hgoto
  refine ⟨.single hsimple .done, rfl, hdraws, ⟨after, ?_, rfl, rfl⟩, ?_⟩
  · rw [htrace, List.foldlM_cons]
    unfold perform
    rw [h]
    rfl
  · rw [htrace, hgoto report rfl, List.findSome?_cons]
    cases e.target? <;> rfl

theorem nothing {table : List (LootEntry α)} (hrolls : (lootTable table).rolls = false)
    {scene after : Scene α} (hstate : after.state = scene.state) (hclock : after.clock = scene.clock)
    (hdraws : after.draws = scene.draws) :
    Traced story [lootTable table] scene after none [] [lootTable table] where
  executes := .nothing hrolls .done
  taken := rfl
  left := hdraws
  folds := ⟨scene, rfl, hstate.symm, hclock.symm⟩
  goto_eq := rfl

theorem drawn {table : List (LootEntry α)} {i : Nat} {entry : LootEntry α} {scene after : Scene α}
    {goto : Option String} {draws : List α} {executed : List (Effect α)}
    (hrolls : (lootTable table).rolls = true)
    (hselects : Draw.Selects (table.map Weighted.weight) scene.draws.next.1 i)
    (hentry : table[i]? = some entry)
    (h : Traced story entry.item { scene with draws := scene.draws.skip 1 } after goto draws executed) :
    Traced story [lootTable table] scene after goto (scene.draws.next.1 :: draws)
      (lootTable table :: executed) := by
  have htrace : trace (lootTable table :: executed) = trace executed := rfl
  refine ⟨?executes, ?taken, ?left, ?folds, ?goto⟩
  case executes =>
    simpa using Executes.drawn hrolls hselects hentry h.executes .done
  case taken =>
    rw [List.length_cons, Nat.add_comm, Feed.taken_add, ← h.taken]
    rfl
  case left => rw [h.left, Feed.skip_skip, List.length_cons, Nat.add_comm]
  case folds =>
    obtain ⟨last, hlast, hsame⟩ := h.folds
    have hworld : SameWorld { scene with draws := scene.draws.skip 1 } scene := ⟨rfl, rfl⟩
    obtain ⟨final, hfinal, hstate, hclock⟩ := hworld.foldlM (isLoot_of_mem_trace executed) hlast
    exact ⟨final, hfinal, hstate ▸ hsame.1, hclock ▸ hsame.2⟩
  case goto => rw [htrace, h.goto_eq]

end Traced

theorem goto_absorb (a b : EffectReport) : (a.absorb b).goto = a.goto.or b.goto := by
  unfold EffectReport.absorb
  rcases a with ⟨_, _, _ | early⟩ <;> rcases b with ⟨_, _, _ | late⟩ <;> rfl

/-- Applying an entry is applying its effects; where there is no entry, nothing is applied. -/
theorem applyEntry_eq (table : List (LootEntry α)) : ∀ i,
    applyEntry story table i = applyAll story ((table[i]?.map Weighted.item).getD []) := by
  induction table with
  | nil =>
    intro i
    rw [applyEntry]
    rfl
  | cons entry rest ih =>
    intro i
    cases i with
    | zero =>
      rw [applyEntry]
      rfl
    | succ i =>
      rw [applyEntry]
      exact ih i

theorem applyEntry_of_getElem? {table : List (LootEntry α)} {i : Nat} {entry : LootEntry α}
    (h : table[i]? = some entry) : applyEntry story table i = applyAll story entry.item := by
  rw [applyEntry_eq, h]
  rfl

theorem run_drawEntry (table : List (LootEntry α)) (scene : Scene α) :
    (drawEntry table).run scene = ((Draw.pick (table.map Weighted.weight) scene.draws).1,
      { scene with draws := (Draw.pick (table.map Weighted.weight) scene.draws).2 }) := by
  unfold drawEntry orFault
  rw [Step.run_bind, Step.run_get]
  dsimp only
  rw [Step.run_bind]
  exact Step.run_lift _ _

/-- The weights of an effect and of all that is nested in it are numbers. -/
def Weighable (effects : List (Effect α)) : Prop :=
  ∀ table, lootTable table ∈ walk effects → ∀ entry ∈ table, Number.IsNumber entry.weight

theorem applyFrom_traced {effects : List (Effect α)}
    (h : ∀ e ∈ effects, ∀ {scene after : Scene α} {report : EffectReport},
      (applyOne story e).run scene = (.ok report, after) →
        ∃ draws executed, Traced story [e] scene after report.goto draws executed) :
    ∀ {so : EffectReport} {scene after : Scene α} {report : EffectReport},
      (applyFrom story so effects).run scene = (.ok report, after) →
        ∃ goto draws executed, report.goto = so.goto.or goto ∧
          Traced story effects scene after goto draws executed := by
  induction effects with
  | nil =>
    intro so scene after report hrun
    rw [applyFrom] at hrun
    cases hrun
    exact ⟨none, [], [], (Option.or_none).symm, .nil scene⟩
  | cons e rest ih =>
    intro so scene after report hrun
    rw [applyFrom] at hrun
    obtain ⟨next, middle, hone, hrest⟩ := Step.run_bind_eq_ok.1 hrun
    obtain ⟨draws, executed, hfirst⟩ := h e List.mem_cons_self hone
    obtain ⟨goto, more, follow, hgoto, hlater⟩ :=
      ih (fun x hx => h x (List.mem_cons_of_mem _ hx)) hrest
    refine ⟨next.goto.or goto, draws ++ more, executed ++ follow, ?_, hfirst.append hlater⟩
    rw [hgoto, goto_absorb, Option.or_assoc]

theorem Weighable.one {effects : List (Effect α)} (h : Weighable effects) {e : Effect α}
    (he : e ∈ effects) : Weighable [e] := by
  intro table htable
  rw [walk, walk, List.append_nil] at htable
  exact h table (mem_walk.2 ⟨e, he, htable⟩)

theorem Weighable.nested {table : List (LootEntry α)} (h : Weighable [lootTable table])
    {entry : LootEntry α} (hentry : entry ∈ table) : Weighable entry.item := by
  intro inner hinner
  obtain ⟨e, he, hinner⟩ := mem_walk.1 hinner
  refine h inner ?_
  rw [walk, walk, List.append_nil]
  exact mem_walkOne_loot hentry he hinner

theorem Weighable.weights {table : List (LootEntry α)} (h : Weighable [lootTable table]) :
    ∀ w ∈ table.map Weighted.weight, Number.IsNumber w := by
  intro w hw
  obtain ⟨entry, hentry, rfl⟩ := List.mem_map.1 hw
  exact h table (mem_walk.2 ⟨_, List.mem_cons_self, mem_walkOne_self _⟩) entry hentry

variable [WeighingNumber α]

/-- What is drawn for a table: nothing, without a draw, or with one draw an entry that it selects. -/
theorem drawEntry_eq_ok {table : List (LootEntry α)} (h : Weighable [lootTable table])
    {scene middle : Scene α} {drawn : Option Nat}
    (hdraw : (drawEntry table).run scene = (.ok drawn, middle)) :
    ((lootTable table).rolls = false ∧ drawn = none ∧ middle = scene) ∨
      (lootTable table).rolls = true ∧ middle = { scene with draws := scene.draws.skip 1 } ∧
        ∃ i entry, drawn = some i ∧ table[i]? = some entry ∧
          Draw.Selects (table.map Weighted.weight) scene.draws.next.1 i := by
  rw [run_drawEntry] at hdraw
  rcases hpick : Draw.pick (table.map Weighted.weight) scene.draws with ⟨result, draws⟩
  rw [hpick] at hdraw
  cases hdraw
  obtain ⟨hany, rfl, rfl⟩ | ⟨hany, rfl, i, rfl, hselects, w, hw, -⟩ := Draw.pick_eq_ok h.weights hpick
  · exact .inl ⟨hany, rfl, rfl⟩
  · rw [List.getElem?_map] at hw
    obtain ⟨entry, hentry, -⟩ := Option.map_eq_some_iff.1 hw
    exact .inr ⟨hany, rfl, i, entry, rfl, hentry, hselects⟩

theorem applyOne_traced {e : Effect α} :
    Weighable [e] → ∀ {scene after : Scene α} {report : EffectReport},
      (applyOne story e).run scene = (.ok report, after) →
        ∃ draws executed, Traced story [e] scene after report.goto draws executed := by
  induction e using Effect.nested with
  | simple e hsimple =>
    intro _ scene after report hrun
    exact ⟨_, _, Traced.simple (isLoot_eq_false.2 hsimple) hrun⟩
  | loot table ih =>
    intro hweights scene after report hrun
    rw [applyOne] at hrun
    split at hrun
    · next hempty =>
      obtain rfl := List.isEmpty_iff.1 hempty
      cases hrun
      exact ⟨[], _, Traced.nothing rfl rfl rfl rfl⟩
    · obtain ⟨drawn, middle, hdraw, hrest⟩ := Step.run_bind_eq_ok.1 hrun
      obtain ⟨hrolls, rfl, rfl⟩ | ⟨hrolls, rfl, i, entry, rfl, hentry, hselects⟩ :=
        drawEntry_eq_ok hweights hdraw
      · cases hrest
        exact ⟨[], _, Traced.nothing hrolls rfl rfl rfl⟩
      · obtain ⟨found, last, happly, hlast⟩ := Step.run_bind_eq_ok.1 hrest
        cases hlast
        rw [applyEntry_of_getElem? hentry] at happly
        have hitem := List.mem_of_getElem? hentry
        obtain ⟨goto, inner, executed, hgoto, htraced⟩ :=
          applyFrom_traced (fun e he => ih entry hitem e he ((hweights.nested hitem).one he)) happly
        have hfirst : ((EffectReport.ok "Loot table rolled:").absorb found).goto = goto := by
          rw [goto_absorb, hgoto]
          rfl
        rw [hfirst]
        exact ⟨_, _, Traced.drawn hrolls hselects hentry htraced⟩

/-! ## Lists -/

omit [WeighingNumber α] in
theorem applyFrom_append (so : EffectReport) (xs ys : List (Effect α)) :
    applyFrom story so (xs ++ ys) = (do
      let report ← applyFrom story so xs
      applyFrom story report ys) := by
  induction xs generalizing so with
  | nil => rw [applyFrom, List.nil_append, pure_bind]
  | cons e rest ih =>
    rw [List.cons_append, applyFrom, applyFrom, bind_assoc]
    exact bind_congr fun next => ih _

omit [WeighingNumber α] in
/-- What was reported before changes nothing but the jump that counts. -/
theorem goto_applyFrom (so : EffectReport) (effects : List (Effect α)) :
    EffectReport.goto <$> applyFrom story so effects =
      (so.goto.or ·) <$> EffectReport.goto <$> applyAll story effects := by
  unfold applyAll
  induction effects generalizing so with
  | nil => rw [applyFrom, applyFrom, map_pure, map_pure, map_pure, Option.or_none]
  | cons e rest ih =>
    rw [applyFrom, applyFrom, map_bind, map_bind, map_bind]
    refine bind_congr fun next => ?_
    have hgoto : ∀ goto : Option String, (so.absorb next).goto.or goto =
        so.goto.or ((EffectReport.absorb {} next).goto.or goto) := by
      intro goto
      rw [goto_absorb, goto_absorb, Option.or_assoc]
      rfl
    rw [ih (so.absorb next), ih (EffectReport.absorb {} next), funext hgoto, Functor.map_map,
      Functor.map_map, Functor.map_map]

/-- Applying a list of effects, nested to any depth, means its trace: which effects those are is
decided by the draws ahead, one for each executed table that has something to draw.  Two lists behind
each other mean the one and then the other, and the first jump counts. -/
theorem applyAll_trace (story : Story α) :
    (∀ effects : List (Effect α), Weighable effects →
      ∀ (scene after : Scene α) (report : EffectReport),
        (applyAll story effects).run scene = (.ok report, after) →
          ∃ draws executed, Traced story effects scene after report.goto draws executed ∧
            draws.length = (executed.filter rolls).length ∧
            ∀ others executed', Executes others effects executed' →
              others = scene.draws.taken others.length → others = draws ∧ executed' = executed) ∧
    ∀ xs ys : List (Effect α),
      EffectReport.goto <$> applyAll story (xs ++ ys) = (do
        let first ← applyAll story xs
        let second ← applyAll story ys
        return first.goto.or second.goto) := by
  constructor
  · intro effects hweights scene after report hrun
    obtain ⟨goto, draws, executed, hgoto, htraced⟩ :=
      applyFrom_traced (fun e he => applyOne_traced (hweights.one he)) hrun
    obtain rfl : report.goto = goto := hgoto
    exact ⟨draws, executed, htraced, htraced.executes.length_draws,
      fun others executed' h' hothers => htraced.unique h' hothers⟩
  · intro xs ys
    unfold applyAll
    rw [applyFrom_append, map_bind]
    refine bind_congr fun first => ?_
    rw [goto_applyFrom, Functor.map_map, map_eq_pure_bind]
    rfl

/-- A chest with a coin in it, or with a second chest behind a trap door. -/
def chest : List (Effect Amount) :=
  [.lootTable
     [⟨.float 0.5, [.addItem "coin" 1]⟩,
      ⟨.float 1.5, [.goto "gate", .lootTable [⟨.int 0, []⟩, ⟨.int 3, [.addCurrency "gold" (.int 2)]⟩]]⟩],
   .goto "end", .lootTable []]

theorem chest_trace :
    let scene : Scene Amount :=
      { state := State.initial .riddle none, draws := .always (.float 0.5), clock := .always 0 }
    Weighable chest ∧ ∃ report after, (applyAll Story.riddle chest).run scene = (.ok report, after) ∧
      report.goto = some "gate" ∧ ∃ draws executed,
        Traced Story.riddle chest scene after report.goto draws executed ∧
          draws.length = (executed.filter rolls).length ∧
          ∀ others executed', Executes others chest executed' →
            others = scene.draws.taken others.length → others = draws ∧ executed' = executed := by
  intro scene
  have hweights : Weighable chest := by
    intro table htable
    simp only [chest, walk, walkOne, walkEntries, List.append_nil, List.cons_append, List.nil_append,
      List.mem_cons, lootTable.injEq, reduceCtorEq, false_or, List.not_mem_nil, or_false] at htable
    obtain rfl | rfl | rfl := htable <;> simp [Number.IsNumber]
    · decide +kernel
    · decide +kernel
  have hgoto : ((applyAll Story.riddle chest).run scene).1.toOption.bind EffectReport.goto =
      some "gate" := by
    decide +kernel
  rcases hrun : (applyAll Story.riddle chest).run scene with ⟨_ | report, after⟩
  · rw [hrun] at hgoto
    cases hgoto
  · rw [hrun] at hgoto
    exact ⟨hweights, report, after, rfl, hgoto,
      (applyAll_trace Story.riddle).1 chest hweights scene after report hrun⟩

end StoryRules.Effect
