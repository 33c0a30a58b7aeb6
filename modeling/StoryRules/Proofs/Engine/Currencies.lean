import StoryRules.Proofs.Engine.Choices
import StoryRules.Proofs.Engine.Referenced
import StoryRules.Proofs.State.Check

/-!
# Currencies that nobody declares

The check of a story warns of the currencies that its effects, its requirements and the hints of its
puzzles name without a declaration.  It does not look at the hint costs of variants.  So a story
without such a warning reads and writes declared currencies only, but for those.

    g.Asks setup id ∨ g.state.currencies.has id = true →
      setup.story.hasCurrency id = true ∨ setup.story.VariantCost id      (play_declared)
-/

namespace StoryRules

variable {α : Type}

/-! ## Warnings of currencies -/

/-- Whether a flaw is a currency that is not declared. -/
def Flaw.isCurrency : Flaw → Bool
  | .undeclaredCurrency .. | .requiredCurrency .. | .hintCurrency .. => true
  | _ => false

/-- The currency that a condition is about. -/
def Condition.currency? : Condition α → Option String
  | .currencyGte currency _ | .currencyLt currency _ => currency
  | _ => none

/-- The currency that hints for a puzzle are paid in. -/
def Puzzle.costCurrency? (p : Puzzle α) : Option String :=
  (p.dynamic.bind Dynamic.hintCost).map HintCost.currency

variable [Number α]

/-- The check of a story comes to an end without a warning of currencies. -/
def Story.QuietOnCurrencies (language : PatternLanguage) (s : Story α) : Prop :=
  Meets (fun f => f.isCurrency = false) (s.flaws language)

instance (language : PatternLanguage) (s : Story α) : Decidable (s.QuietOnCurrencies language) :=
  match h : s.flaws language with
  | .ok flaws =>
    decidable_of_iff (∀ f ∈ flaws, f.isCurrency = false) (by simp [Story.QuietOnCurrencies, Meets, h])
  | .error _ => isFalse (by simp [Story.QuietOnCurrencies, Meets, h])

/-- A currency is what hints cost under a variant that sets the rules on attempts. -/
def Story.VariantCost (s : Story α) (id : String) : Prop :=
  ∃ n ∈ s.nodes, ∃ p, n.puzzle = some p ∧ ∃ v ∈ p.variants, v.item.has "dynamic" = true ∧
    ∃ q, p.withVariant v = .ok q ∧ q.costCurrency? = some id

/-- A currency is declared, or it is one that the check does not look at. -/
def Story.Covers (s : Story α) (id : String) : Prop := s.hasCurrency id = true ∨ s.VariantCost id

/-- A move may look at what is held of a currency: a requirement of a choice at hand is about it, or
hints for the puzzle at hand are paid in it. -/
def Game.Asks (setup : Setup α) (g : Game α) (id : String) : Prop :=
  (∃ n, g.currentNode? setup = some n ∧ ∃ c ∈ n.choices,
    ∃ condition ∈ Requirement.conditions? c.requirement, condition.currency? = some id) ∨
  ∃ p, g.activePuzzle? setup = some p ∧ p.costCurrency? = some id

theorem Condition.test_currencies {c : Condition α} {s : State α} {held : Table α}
    (h : ∀ id, c.currency? = some id → { s with currencies := held }.currency id = s.currency id) :
    c.test { s with currencies := held } = c.test s := by
  have hholds : c.holds { s with currencies := held } = c.holds s := by
    unfold holds
    split
    case h_3 id value => rw [h id rfl]
    case h_4 id value => rw [h id rfl]
    all_goals rfl
  unfold test
  rw [hholds]

/-- Which choices can be taken does not depend on what is held of currencies that are not asked for. -/
theorem Game.Asks.availabilities {setup : Setup α} {g : Game α} {n : Node α}
    (hn : g.currentNode? setup = some n) {held : Table α}
    (h : ∀ id, g.Asks setup id →
      { g.state with currencies := held }.currency id = g.state.currency id) :
    n.availabilities { g.state with currencies := held } = n.availabilities g.state :=
  Node.availabilities_congr fun _ c hc => Node.availability_congr rfl rfl fun condition hcondition =>
    condition.test_currencies fun id hid => h id (.inl ⟨n, hn, c, hc, condition, hcondition, hid⟩)

/-! ## What the check looks at -/

section

variable {s : Story α} {place : Place}

/-- A list of effects writes covered currencies only. -/
def Effect.AllCovered (s : Story α) (effects : List (Effect α)) : Prop :=
  ∀ currency value, .addCurrency currency value ∈ walk effects → s.Covers currency

theorem Effect.all_covered {effects : List (Effect α)}
    (h : Meets (fun f => f.isCurrency = false) (flawsOf s place effects)) : AllCovered s effects :=
  fun _ _ he => .inl (Meets.present (flawsOf_meet h _ he) (by simp [Flaw.isCurrency]))

omit [Number α] in
theorem Condition.declared {c : Condition α}
    (h : Meets (fun f => f.isCurrency = false) (.ok (c.flaws s place))) {id : String}
    (hid : c.currency? = some id) : s.hasCurrency id = true := by
  cases c with
  | currencyGte currency value =>
    obtain rfl : currency = some id := hid
    exact Meets.present h (by simp [Flaw.isCurrency])
  | currencyLt currency value =>
    obtain rfl : currency = some id := hid
    exact Meets.present h (by simp [Flaw.isCurrency])
  | _ => cases hid

namespace Puzzle

variable {language : PatternLanguage} {p q : Puzzle α} {v : Variant α}

/-- A puzzle in play writes covered currencies only. -/
structure Covered (s : Story α) (p : Puzzle α) : Prop where
  cost : ∀ id, p.costCurrency? = some id → s.Covers id
  outcome : ∀ success o, p.outcome? success = some o → Effect.AllCovered s o.effects

theorem own_covered {considered : String → Bool}
    (h : Meets (fun f => f.isCurrency = false) (p.ownFlaws language s place considered))
    {success : Bool} {o : Outcome α} (hname : considered (outcomeName success) = true)
    (ho : p.outcome? success = some o) : Effect.AllCovered s o.effects :=
  Effect.all_covered (outcome_meets ((own_meet h).1 success o hname ho)).2

theorem base_covered (h : Meets (fun f => f.isCurrency = false) (p.flaws language s)) :
    p.Covered s := by
  obtain ⟨hown, hhint, -⟩ := flaws_meet h
  refine ⟨fun id hid => .inl ?_, fun success o ho => own_covered hown rfl ho⟩
  obtain ⟨cost, hcost, rfl⟩ := Option.map_eq_some_iff.1 hid
  unfold hintFlaws at hhint
  rw [hcost] at hhint
  exact Meets.present hhint (by simp [Flaw.isCurrency])

/-- What a variant does not name is the puzzle's own; what it names is looked at, but for its hint
cost. -/
theorem variant_covered [FaithfulNumber α]
    (h : Meets (fun f => f.isCurrency = false) (p.flaws language s)) {n : Node α} (hn : n ∈ s.nodes)
    (hp : n.puzzle = some p) (hv : v ∈ p.variants) (hq : p.checkVariant v = .puzzle q) :
    q.Covered s := by
  have hwith := (checkVariant_eq_puzzle hq).1
  have hbase := base_covered h
  refine ⟨fun id hid => ?_, fun success o ho => ?_⟩
  · cases hname : v.item.has "dynamic" with
    | true => exact .inr ⟨n, hn, p, hp, v, hv, hname, q, hwith, hid⟩
    | false =>
      rw [costCurrency?, dynamic_withVariant hwith hname] at hid
      exact hbase.cost id hid
  · cases hname : v.item.has (outcomeName success) with
    | true =>
      obtain ⟨index, hvariant⟩ := (flaws_meet h).2.2 v hv
      rw [variantFlaws, hq] at hvariant
      exact own_covered hvariant hname ho
    | false => exact hbase.outcome success o (outcome?_withVariant hwith hname ▸ ho)

end Puzzle

end

/-! ## The invariant -/

/-- What holds while only covered currencies are written. -/
def covering (setup : Setup α) : Invariant α where
  state s := ∀ entry ∈ s.currencies, setup.story.Covers entry.1
  puzzle := Puzzle.Covered setup.story
  effects := Effect.AllCovered setup.story
  target _ := True
  line _ := True

variable {language : PatternLanguage} {setup : Setup α}

theorem covering_upheld [FaithfulNumber α] (hvalid : setup.story.Valid language)
    (hquiet : setup.story.QuietOnCurrencies language) : (covering setup).Upheld setup where
  current _ _ := trivial
  moved s n _ _ hs := by
    rintro entry hentry
    exact hs entry (s.currencies_visit n.id ▸ hentry)
  entry n hn := Effect.all_covered (Node.flaws_meet (Story.nodes_meet hquiet n hn)).1
  choice n hn c hc := by
    obtain ⟨index, hchoice⟩ := (Node.flaws_meet (Story.nodes_meet hquiet n hn)).2.1 c hc
    exact ⟨trivial, Effect.all_covered (Node.choice_meets hchoice).2.1⟩
  base n hn p hp := Puzzle.base_covered ((Node.flaws_meet (Story.nodes_meet hquiet n hn)).2.2 p hp)
  variant n hn p hp v hv q hq := by
    have hflaws := (Node.flaws_meet (Story.nodes_meet hquiet n hn)).2.2 p hp
    have hcovered := Puzzle.variant_covered hflaws hn hp hv (hvalid.checkVariant hn hp hv hq)
    exact ⟨hcovered.cost, hcovered.outcome⟩
  outcome p hp success o ho := ⟨hp.outcome success o ho, fun _ _ => trivial⟩
  payment p hp cost hcost := by
    intro currency value he
    cases List.mem_singleton.1 he
    exact hp.cost cost.currency (by rw [Puzzle.costCurrency?, hcost]; rfl)
  applied effects heffects := by
    refine Invariant.applied trivial trivial fun e he => ⟨fun s s' hs hchange => ?_, ?_, ?_⟩
    · cases hchange with
      | currency htotal =>
        intro entry hentry
        rcases Table.mem_put hentry with rfl | hentry
        · exact heffects _ _ he
        · exact hs entry hentry
      | _ => exact hs
    · exact fun _ _ => trivial
    · exact fun _ _ => trivial
  sound _ _ _ := trivial
  scored _ _ _ _ _ _ := trivial
  nodeMissing _ _ _ := trivial
  entryJump _ _ _ _ := trivial
  choiceJump _ _ _ _ _ _ := trivial
  variantInvalid _ _ _ _ _ _ _ _ := trivial
  variantRenames _ _ _ _ _ _ _ _ _ := trivial

theorem covering_bears : (covering setup).Bears := fun _ _ _ hs => hs

theorem covering_initial (draws : Feed α) (clock : Feed Int) :
    (covering setup).Stands (setup.newGame none draws clock) := by
  refine ⟨fun entry hentry => .inl ?_, by rintro q ⟨⟩⟩
  obtain ⟨c, hc, rfl⟩ := List.mem_map.1 (Table.mem_ofEntries hentry)
  show (setup.story.currencies.find? fun d => d.id = c.id).isSome = true
  exact List.find?_isSome.2 ⟨c, hc, by simp⟩

/-! ## Runs -/

/-- A currency that a move may look at is covered. -/
theorem covering_asks [FaithfulNumber α] (hvalid : setup.story.Valid language)
    (hquiet : setup.story.QuietOnCurrencies language) {g : Game α} (hg : (covering setup).Stands g)
    {id : String} (h : g.Asks setup id) : setup.story.Covers id := by
  rcases h with ⟨n, hn, c, hc, condition, hcondition, hid⟩ | ⟨p, hp, hid⟩
  · have hflaws := Story.nodes_meet hquiet n (Story.mem_nodes_of_node? hn)
    obtain ⟨index, hchoice⟩ := (Node.flaws_meet hflaws).2.1 c hc
    exact .inl (Condition.declared ((Node.choice_meets hchoice).2.2 condition hcondition) hid)
  · exact ((covering_upheld hvalid hquiet).activePuzzle? hg hp).cost id hid

/-- A valid story that the check has no warning of currencies for is played with declared currencies
only, but for the hint costs of variants: that goes for what moves look at, for what is written, and
for what the check of a state complains of. -/
theorem play_declared [FaithfulNumber α] (hvalid : setup.story.Valid language)
    (hquiet : setup.story.QuietOnCurrencies language) (draws : Feed α) (clock : Feed Int)
    (moves : List (Move α)) :
    let g := ((setup.newGame none draws clock).play setup moves).2
    (∀ id, g.Asks setup id → setup.story.Covers id) ∧
    (∀ entry ∈ g.state.currencies, setup.story.Covers entry.1) ∧
    ∀ id, undefinedCurrency id ∈ g.state.check setup.story → setup.story.VariantCost id := by
  intro g
  have hg : (covering setup).Stands g :=
    ((covering_upheld hvalid hquiet).play covering_bears moves _ (covering_initial draws clock)).1
  refine ⟨fun id hid => covering_asks hvalid hquiet hg hid, hg.state, fun id hid => ?_⟩
  obtain ⟨⟨entry, hentry, rfl⟩, hout⟩ := State.held_of_undefinedCurrency hid
  refine (hg.state entry hentry).resolve_left ?_
  rw [hout]
  exact Bool.false_ne_true

/-! ## A well -/

/-- A riddle with a hint, which a variant puts a price on. -/
def Puzzle.well (currency : String) : Puzzle Amount where
  id := "depth"
  prompt := ""
  media := []
  timeLimit := none
  attemptsMax := none
  hints := ["Throw a stone."]
  variants := [⟨.int 1, [("dynamic", .map [("give_hint_cost",
    .map [("currency_id", .text currency), ("value", .whole 0)])])]⟩]
  success := none
  failure := none
  gatesChoices := false
  dynamic := none
  task := .numeric (.int 7) (.int 0)

/-- A well whose hint costs nothing, in some currency; gold is the only one that is declared. -/
def Story.well (currency : String) : Story Amount where
  title := "The well"
  language := "en"
  version := "1"
  assets := []
  items := []
  currencies := [⟨"gold", "Gold", none⟩]
  stats := []
  nodes :=
    [{ id := "well", part := 1, isEnding := false, title := "", text := "", media := []
       onEnter := none, puzzle := some (.well currency)
       choices := [⟨"Leave", "end", some (.condition (.currencyGte (some "gold") (some (.int 0)))), [],
         none⟩] },
     { id := "end", part := 1, isEnding := true, title := "", text := "", media := []
       onEnter := none, puzzle := none, choices := [] }]

theorem well_declared :
    let setup : Setup Amount := { Setup.riddle with story := .well "gold" }
    let g := ((setup.newGame none (.always (.int 0)) (.always 0)).play setup [.start, .hint]).2
    Story.Valid Pattern.language (.well "gold") ∧
    Story.QuietOnCurrencies Pattern.language (.well "gold") ∧ g.Asks setup "gold" ∧
    Story.Covers (.well "gold") "gold" := by
  intro setup g
  have hvalid : setup.story.Valid Pattern.language := by decide +kernel
  have hquiet : setup.story.QuietOnCurrencies Pattern.language := by decide +kernel
  have hcost : (g.activePuzzle? setup).bind Puzzle.costCurrency? = some "gold" := by decide +kernel
  obtain ⟨p, hp, hid⟩ := Option.bind_eq_some_iff.1 hcost
  have hasks : g.Asks setup "gold" := .inr ⟨p, hp, hid⟩
  exact ⟨hvalid, hquiet, hasks, (play_declared hvalid hquiet _ _ _).1 "gold" hasks⟩

/-- The hint of a variant may cost a currency that nobody declares, and the check does not say so. -/
theorem well_spends_undeclared :
    let setup : Setup Amount := { Setup.riddle with story := .well "gems" }
    let g := ((setup.newGame none (.always (.int 0)) (.always 0)).play setup [.start, .hint]).2
    (Story.check Pattern.language (.well "gems")).toOption = some ⟨[], []⟩ ∧
    Story.hasCurrency (.well "gems") "gems" = false ∧ g.state.currencies.has "gems" = true ∧
    undefinedCurrency "gems" ∈ g.state.check (.well "gems") := by
  decide +kernel

end StoryRules
