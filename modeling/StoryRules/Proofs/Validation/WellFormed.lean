import StoryRules.Proofs.Requirement
import StoryRules.Proofs.Validation.Sound

/-!
# Well-formed stories

What a story has to be, said without reference to the way in which it is checked: its metadata is
there, its ids are apart, its stats start within their bounds, and everything named anywhere is
declared.  Effects are nested in loot tables and conditions in requirements, and variants make puzzles
of their own; what is asked of the parts is asked of them at any depth and of every such puzzle as a
whole.

    s.WellFormed language
-/

namespace StoryRules

variable {α : Type}

/-! ## Nesting -/

namespace Effect

/-- An effect is in a list, or in an entry of a loot table that is. -/
inductive Occurs (e : Effect α) : List (Effect α) → Prop
  | here {effects : List (Effect α)} : e ∈ effects → Occurs e effects
  | nested {table : List (LootEntry α)} {entry : LootEntry α} {effects : List (Effect α)} :
    lootTable table ∈ effects → entry ∈ table → Occurs e entry.item → Occurs e effects

theorem Occurs.mono {e : Effect α} {xs ys : List (Effect α)} (h : Occurs e xs)
    (hsub : ∀ x ∈ xs, x ∈ ys) : Occurs e ys := by
  cases h with
  | here he => exact .here (hsub e he)
  | nested htable hentry he => exact .nested (hsub _ htable) hentry he

theorem occurs_of_mem_walkOne {x e : Effect α} : x ∈ walkOne e → Occurs x [e] := by
  induction e using Effect.nested with
  | simple e hsimple =>
    intro hx
    have hself : walkOne e = [e] := by
      cases e with
      | lootTable table => exact absurd rfl (hsimple table)
      | _ => rfl
    rw [hself] at hx
    exact .here hx
  | loot table ih =>
    intro hx
    rw [walkOne, List.mem_cons, mem_walkEntries] at hx
    obtain rfl | ⟨entry, hentry, hx⟩ := hx
    · exact .here List.mem_cons_self
    · obtain ⟨e, he, hx⟩ := mem_walk.1 hx
      refine .nested List.mem_cons_self hentry ((ih entry hentry e he hx).mono ?_)
      intro y hy
      rw [List.mem_singleton.1 hy]
      exact he

/-- A walk meets what occurs at any depth, and nothing else. -/
theorem mem_walk_iff_occurs {x : Effect α} {effects : List (Effect α)} :
    x ∈ walk effects ↔ Occurs x effects := by
  constructor
  · intro hx
    obtain ⟨e, he, hx⟩ := mem_walk.1 hx
    refine (occurs_of_mem_walkOne hx).mono fun y hy => ?_
    rw [List.mem_singleton.1 hy]
    exact he
  · intro h
    induction h with
    | here hx => exact mem_walk.2 ⟨_, hx, mem_walkOne_self _⟩
    | nested htable hentry _ ih =>
      obtain ⟨e, he, hx⟩ := mem_walk.1 ih
      exact mem_walk.2 ⟨_, htable, mem_walkOne_loot hentry he hx⟩

end Effect

namespace Requirement

/-- A condition is a leaf of an expression. -/
inductive Leaf (c : Condition α) : Requirement α → Prop
  | condition : Leaf c (.condition c)
  | not {part : Requirement α} : Leaf c part → Leaf c (.not part)
  | allOf {part : Requirement α} {parts : List (Requirement α)} :
    part ∈ parts → Leaf c part → Leaf c (.allOf parts)
  | anyOf {part : Requirement α} {parts : List (Requirement α)} :
    part ∈ parts → Leaf c part → Leaf c (.anyOf parts)

/-- The conditions of an expression are its leaves. -/
theorem mem_conditions_iff_leaf {c : Condition α} {r : Requirement α} :
    c ∈ r.conditions ↔ Leaf c r := by
  induction r using Requirement.nested with
  | condition d =>
    rw [conditions, List.mem_singleton]
    constructor
    · rintro rfl
      exact .condition
    · rintro ⟨⟩
      rfl
  | not part ih =>
    rw [conditions, ih]
    constructor
    · exact .not
    · rintro (_ | h)
      exact h
  | allOf parts ih =>
    rw [conditions, mem_conditionsOfAll]
    constructor
    · rintro ⟨part, hpart, hc⟩
      exact .allOf hpart ((ih part hpart).1 hc)
    · intro h
      cases h with
      | allOf hpart hc => exact ⟨_, hpart, (ih _ hpart).2 hc⟩
  | anyOf parts ih =>
    rw [conditions, mem_conditionsOfAll]
    constructor
    · rintro ⟨part, hpart, hc⟩
      exact .anyOf hpart ((ih part hpart).1 hc)
    · intro h
      cases h with
      | anyOf hpart hc => exact ⟨_, hpart, (ih _ hpart).2 hc⟩

end Requirement

variable [Number α]

/-! ## Parts of a story -/

/-- What a condition names is there, where its absence is an error: items, stats and nodes. -/
def Condition.Resolves (s : Story α) : Condition α → Prop
  | .hasItem (some item) _ | .inventoryLt (some item) _ => s.hasItem item = true
  | .statGte (some stat) _ | .statBetween (some stat) _ _ => s.hasStat stat = true
  | .visitedNode (some node) => s.hasNode node = true
  | _ => True

/-- What a list of effects names is there, at any depth. -/
def Effect.WellFormed (s : Story α) (effects : List (Effect α)) : Prop :=
  ∀ e, Occurs e effects → e.Resolves s

/-- Every asset that is referred to is declared. -/
def MediaDeclared (s : Story α) (media : List MediaRef) : Prop :=
  ∀ ref ∈ media, s.hasAsset ref.asset = true

structure Outcome.WellFormed (s : Story α) (o : Outcome α) : Prop where
  next : ∀ target, o.next = some target → s.hasNode target = true
  effects : Effect.WellFormed s o.effects

structure Puzzle.WellFormed (language : PatternLanguage) (s : Story α) (p : Puzzle α) : Prop where
  media : MediaDeclared s p.media
  outcome : ∀ success o, p.outcome? success = some o → o.WellFormed s
  pattern : p.task.Compiles language

/-- A variant leaves the id of its puzzle alone and makes a puzzle that is as a whole what a puzzle has
to be. -/
structure Puzzle.Admits (language : PatternLanguage) (s : Story α) (p : Puzzle α) (v : Variant α) :
    Prop where
  id : ∀ d, v.item.get? "id" = some d → d = .text p.id
  makes : ∃ q, p.withVariant v = .ok q ∧ q.WellFormed language s

structure Choice.WellFormed (s : Story α) (n : Node α) (c : Choice α) : Prop where
  next : s.hasNode c.next = true
  /-- Going back to the same node is for something. -/
  moves : c.next = n.id → n.puzzle ≠ none ∨ c.effects ≠ []
  effects : Effect.WellFormed s c.effects
  requirement : ∀ r, c.requirement = some r → ∀ leaf, r.Leaf leaf → leaf.Resolves s

structure Node.WellFormed (language : PatternLanguage) (s : Story α) (n : Node α) : Prop where
  media : MediaDeclared s n.media
  entry : Effect.WellFormed s n.onEnterEffects
  ending : n.isEnding = true → n.choices = []
  choice : ∀ c ∈ n.choices, c.WellFormed s n
  puzzle : ∀ p, n.puzzle = some p → p.WellFormed language s ∧ ∀ v ∈ p.variants, p.Admits language s v

/-- What makes a story well-formed. -/
structure Story.WellFormed (patterns : PatternLanguage) (s : Story α) : Prop where
  title : s.title ≠ ""
  language : s.language ≠ ""
  version : s.version ≠ ""
  nodes : s.nodes ≠ []
  nodeIds : (s.nodes.map (·.id)).Nodup
  assetIds : (s.assets.map (·.id)).Nodup
  itemIds : (s.items.map (·.id)).Nodup
  statIds : (s.stats.map (·.id)).Nodup
  currencyIds : (s.currencies.map (·.id)).Nodup
  puzzleIds : (s.puzzles.map (·.2.id)).Nodup
  bounds : ∀ t ∈ s.stats, Number.atMost t.min t.start = true ∧ Number.atMost t.start t.max = true
  node : ∀ n ∈ s.nodes, n.WellFormed patterns s

/-! ## Exact weights -/

/-- The weights of all loot tables in a list are exact, at any depth. -/
def Effect.ExactWeights (exact : α → Prop) (effects : List (Effect α)) : Prop :=
  ∀ table, Occurs (lootTable table) effects → ∀ entry ∈ table, exact entry.weight

/-- So are those of the outcomes of a puzzle. -/
def Puzzle.ExactWeights (exact : α → Prop) (p : Puzzle α) : Prop :=
  ∀ success o, p.outcome? success = some o → Effect.ExactWeights exact o.effects

/-- The bounds of stats and the weights of loot tables are exact, also in the puzzles that variants
make. -/
structure Story.ExactAmounts (exact : α → Prop) (s : Story α) : Prop where
  stat : ∀ t ∈ s.stats, exact t.min ∧ exact t.max ∧ exact t.start
  entry : ∀ n ∈ s.nodes, Effect.ExactWeights exact n.onEnterEffects
  choice : ∀ n ∈ s.nodes, ∀ c ∈ n.choices, Effect.ExactWeights exact c.effects
  puzzle : ∀ n ∈ s.nodes, ∀ p, n.puzzle = some p → p.ExactWeights exact
  variant : ∀ n ∈ s.nodes, ∀ p, n.puzzle = some p → ∀ v ∈ p.variants, ∀ q,
    p.withVariant v = .ok q → q.ExactWeights exact

end StoryRules
