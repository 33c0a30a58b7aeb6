import StoryRules.Proofs.Effect.Accounts
import StoryRules.Proofs.Engine.Returns
import StoryRules.Proofs.Validation.Ends
import StoryRules.Proofs.Validation.Warnings

/-!
# Warnings of loot tables

The check of a story warns of the loot tables whose weights add up to zero or less, one warning for each, at any
depth of the effects of entries, choices and outcomes.  What is drawn from are the weights above zero alone.  So
with whole weights every table that can never be drawn from is warned of, but so is one where weights below zero
outweigh those above, although it is drawn from like any other.

    flaws.filterMap lootPlace? = (s.lootTables.filter fun found => weightTotal found.2 ≤ 0).map Prod.fst
                                                                                      (flaws_lootTables)
-/

namespace StoryRules

variable {α : Type}

/-! ## The loot tables of a story -/

/-- Where a flaw says that there is a loot table without weight. -/
def Flaw.lootPlace? : Flaw → Option Place
  | .emptyLoot place => some place
  | _ => none

def Effect.table? : Effect α → Option (List (LootEntry α))
  | .lootTable table => some table
  | _ => none

/-- The loot tables of a list of effects, at any depth, with the place of the list. -/
def Effect.tables (place : Place) (effects : List (Effect α)) : List (Place × List (LootEntry α)) :=
  (walk effects).flatMap fun e => (e.table?.map (place, ·)).toList

theorem Effect.mem_tables {place : Place} {effects : List (Effect α)} {found : Place × List (LootEntry α)} :
    found ∈ tables place effects ↔ found.1 = place ∧ Occurs (lootTable found.2) effects := by
  unfold tables
  rw [List.mem_flatMap, ← mem_walk_iff_occurs]
  constructor
  · rintro ⟨e, he, hfound⟩
    obtain ⟨table, htable, rfl⟩ := Option.map_eq_some_iff.1 (Option.mem_toList.1 hfound)
    cases e <;> cases htable
    exact ⟨rfl, he⟩
  · rintro ⟨rfl, he⟩
    exact ⟨_, he, List.mem_singleton_self _⟩

variable [Number α]

namespace Puzzle

/-- The loot tables of the considered outcomes. -/
def ownTables (place : Place) (considered : String → Bool) (p : Puzzle α) :
    List (Place × List (LootEntry α)) :=
  (p.outcomes.filter fun o => considered (outcomeName o.1)).flatMap fun o =>
    Effect.tables (.outcomeEffects place o.1) o.2.effects

/-- The loot tables of the outcomes that a variant brings. -/
def variantTables (place : Place) (p : Puzzle α) (v : Variant α) : List (Place × List (LootEntry α)) :=
  match p.checkVariant v with
  | .puzzle q => q.ownTables place v.item.has
  | _ => []

def lootTables (p : Puzzle α) : List (Place × List (LootEntry α)) :=
  p.ownTables (.puzzle p.id) (fun _ => true) ++
    (p.variants.zipIdx 0).flatMap fun v => p.variantTables (.variant (.puzzle p.id) v.2) v.1

end Puzzle

def Node.lootTables (n : Node α) : List (Place × List (LootEntry α)) :=
  Effect.tables (.onEnter n.id) n.onEnterEffects ++
    (n.choices.zipIdx 0).flatMap (fun c => Effect.tables (.choiceEffects n.id c.2) c.1.effects) ++
    n.puzzle.toList.flatMap Puzzle.lootTables

/-- The loot tables of a story with their places, in the order in which the check comes to them. -/
def Story.lootTables (s : Story α) : List (Place × List (LootEntry α)) := s.nodes.flatMap Node.lootTables

/-! ## Checks and the loot tables that they warn of -/

/-- Whether the check warns of a loot table. -/
def Effect.hollow (table : List (LootEntry α)) : Bool :=
  table.isEmpty || match Number.sum (table.map Weighted.weight) with
    | .ok total => Number.atMost total (Number.whole 0)
    | .error _ => false

/-- A check finds nothing of loot tables. -/
def Silent (check : Except Fault (List Flaw)) : Prop := Finds (fun f => f.lootPlace? = none) check

omit [Number α] in
theorem reference_silent {present : Bool} {flaw : Flaw} (h : flaw.lootPlace? = none) :
    Silent (.ok (flawUnless present flaw)) := Finds.present h

/-- A check that comes to an end warns of those among some loot tables that are hollow, and of no other ones. -/
def Sifts (check : Except Fault (List Flaw)) (tables : List (Place × List (LootEntry α))) : Prop :=
  ∀ flaws, check = .ok flaws →
    flaws.filterMap Flaw.lootPlace? = (tables.filter fun found => Effect.hollow found.2).map Prod.fst

namespace Sifts

variable {flaws more : List Flaw} {tables others : List (Place × List (LootEntry α))}
  {check : Except Fault (List Flaw)}

theorem of_ok (h : Sifts (.ok flaws) tables) :
    flaws.filterMap Flaw.lootPlace? = (tables.filter fun found => Effect.hollow found.2).map Prod.fst :=
  h flaws rfl

theorem silent (h : Silent check) : Sifts (α := α) check [] :=
  fun flaws hflaws => List.filterMap_eq_nil_iff.2 (h flaws hflaws)

theorem append (h : Sifts (.ok flaws) tables) (h' : Sifts (.ok more) others) :
    Sifts (.ok (flaws ++ more)) (tables ++ others) := by
  rintro _ ⟨⟩
  rw [List.filterMap_append, h.of_ok, h'.of_ok, List.filter_append, List.map_append]

theorem bind {f : List Flaw → Except Fault (List Flaw)} (h : Sifts check tables)
    (hf : ∀ flaws, Sifts (.ok flaws) tables → Sifts (f flaws) others) : Sifts (check >>= f) others := by
  intro flaws hflaws
  obtain ⟨found, hfound, hflaws⟩ := bind_eq_ok.1 hflaws
  refine hf found ?_ flaws hflaws
  rintro _ ⟨⟩
  exact h found hfound

theorem both {x y : Except Fault (List Flaw)} (hx : Sifts x tables) (hy : Sifts y others) :
    Sifts (do
      let flaws ← x
      let more ← y
      .ok (flaws ++ more)) (tables ++ others) :=
  hx.bind fun _ hflaws => hy.bind fun _ hmore => hflaws.append hmore

/-- A check of every entry of a list. -/
theorem each {β : Type} {f : β → Except Fault (List Flaw)} {g : β → List (Place × List (LootEntry α))}
    (h : ∀ b, Sifts (f b) (g b)) {bs : List β} :
    ∀ {found : List (List Flaw)}, bs.mapM f = .ok found → Sifts (.ok found.flatten) (bs.flatMap g) := by
  induction bs with
  | nil =>
    rintro _ ⟨⟩
    exact silent Finds.nil
  | cons first rest ih =>
    intro found hfound
    rw [List.mapM_cons] at hfound
    obtain ⟨flaws, hflaws, hfound⟩ := bind_eq_ok.1 hfound
    obtain ⟨later, hlater, hfound⟩ := bind_eq_ok.1 hfound
    cases hfound
    have hfirst : Sifts (.ok flaws) (g first) := by
      rintro _ ⟨⟩
      exact h first flaws hflaws
    exact hfirst.append (ih hlater)

end Sifts

variable {language : PatternLanguage} {s : Story α} {place : Place}

/-! ## Effects and requirements -/

namespace Effect

theorem flaws_sift (e : Effect α) : Sifts (e.flaws s place) (e.table?.map (place, ·)).toList := by
  cases e with
  | lootTable table =>
    rw [flaws]
    show Sifts _ [(place, table)]
    split
    · next hempty =>
      rintro _ ⟨⟩
      rw [List.filter_singleton, hollow, hempty]
      rfl
    · next hempty =>
      intro found hfound
      obtain ⟨total, htotal, hfound⟩ := bind_eq_ok.1 hfound
      cases hfound
      have hhollow : hollow table = Number.atMost total (Number.whole 0) := by
        unfold hollow
        rw [Bool.not_eq_true] at hempty
        rw [hempty, htotal]
        rfl
      rw [List.filter_singleton, hhollow]
      cases Number.atMost total (Number.whole 0) <;> rfl
  | addItem | removeItem | addStat | addCurrency | goto => exact .silent (Finds.present rfl)
  | lockChoice | unlockChoice =>
    refine .silent ?_
    rw [flaws]
    unfold lockFlaws
    split
    · exact Finds.single rfl
    · split
      · exact Finds.nil
      · exact Finds.after fun _ => Finds.single rfl
  | _ => exact .silent Finds.nil

theorem flawsOf_sift (effects : List (Effect α)) : Sifts (flawsOf s place effects) (tables place effects) := by
  intro flaws hflaws
  obtain ⟨found, hfound, hflaws⟩ := bind_eq_ok.1 hflaws
  exact Sifts.each flaws_sift hfound flaws hflaws

end Effect

omit [Number α] in
theorem Condition.flaws_silent (c : Condition α) :
    Silent (.ok (c.flaws s place)) := by
  have hnamed : ∀ {present : String → Bool} {flaw : String → Flaw} {named : Option String},
      (∀ id, (flaw id).lootPlace? = none) →
        Silent (.ok (flawUnlessNamed present flaw named)) := by
    intro present flaw named h
    cases named with
    | none => exact Finds.nil
    | some id => exact Finds.present (h id)
  cases c with
  | flagIs => exact Finds.nil
  | _ => exact hnamed fun _ => rfl

theorem media_silent (media : List MediaRef) : Sifts (α := α) (.ok (mediaFlaws s place media)) [] :=
  .silent (Finds.flatMap fun _ _ => Finds.present rfl)

/-! ## Puzzles -/

namespace Puzzle

variable {p : Puzzle α}

theorem outcome_sifts (success : Bool) (o : Outcome α) : Sifts (outcomeFlaws s place success o)
    (Effect.tables (.outcomeEffects place success) o.effects) := by
  unfold outcomeFlaws
  refine (Effect.flawsOf_sift o.effects).bind fun flaws hflaws => ?_
  exact (Sifts.silent (Finds.flatMap fun _ _ => Finds.present rfl)).append hflaws

theorem pattern_silent (task : Task α) : Sifts (α := α) (patternFlaws language place task) [] := by
  refine .silent ?_
  unfold patternFlaws
  split
  · split
    · exact Finds.nil
    · exact Finds.single rfl
    · rintro flaws ⟨⟩
  · exact Finds.nil

theorem own_sift (considered : String → Bool) :
    Sifts (p.ownFlaws language s place considered) (p.ownTables place considered) := by
  have hmedia : Sifts (α := α) (.ok (if considered "media" = true then mediaFlaws s place p.media else [])) [] := by
    split
    · exact media_silent p.media
    · exact .silent Finds.nil
  unfold ownFlaws
  intro flaws hflaws
  obtain ⟨found, hfound, hflaws⟩ := bind_eq_ok.1 hflaws
  have hfront := hmedia.append (Sifts.each (fun o : Bool × Outcome α => outcome_sifts o.1 o.2) hfound)
  have hall : ∀ pattern, Sifts (α := α) (.ok pattern) [] →
      Sifts (.ok ((if considered "media" = true then mediaFlaws s place p.media else []) ++
        found.flatten ++ pattern)) (p.ownTables place considered) := by
    intro pattern hpattern
    have h := hfront.append hpattern
    rwa [List.nil_append, List.append_nil] at h
  dsimp only at hflaws
  split at hflaws
  · exact (pattern_silent p.task).bind hall flaws hflaws
  · exact hall [] (.silent Finds.nil) flaws hflaws

theorem variant_sifts (v : Variant α) :
    Sifts (p.variantFlaws language s place v) (p.variantTables place v) := by
  unfold variantFlaws variantTables
  cases p.checkVariant v with
  | renames =>
    have hrenames : Silent (.ok [Flaw.variantRenames place]) := Finds.single rfl
    exact .silent hrenames
  | invalid problems =>
    have hinvalid : Silent (.ok [Flaw.variantInvalid place problems]) := Finds.single rfl
    exact .silent hinvalid
  | puzzle q => exact own_sift _

theorem variants_sift (variants : List (Variant α)) : ∀ index,
    Sifts (p.variantsFlaws language s place index variants)
      ((variants.zipIdx index).flatMap fun v => p.variantTables (.variant place v.2) v.1) := by
  induction variants with
  | nil => exact fun _ => .silent Finds.nil
  | cons v rest ih => exact fun index => (variant_sifts v).both (ih (index + 1))

theorem flaws_sift : Sifts (p.flaws language s) p.lootTables := by
  have hhint : Sifts (α := α) (.ok (p.hintFlaws s (.puzzle p.id))) [] := by
    refine .silent ?_
    unfold hintFlaws
    split
    · exact Finds.present rfl
    · exact Finds.nil
  unfold flaws
  refine (own_sift _).bind fun own hown => (variants_sift p.variants 0).bind fun variants hvariants => ?_
  have h := (hown.append hhint).append hvariants
  rwa [List.append_nil] at h

end Puzzle

/-! ## Nodes and stories -/

namespace Node

variable {n : Node α}

theorem choice_sifts (index : Nat) (c : Choice α) :
    Sifts (n.choiceFlaws s index c) (Effect.tables (.choiceEffects n.id index) c.effects) := by
  unfold choiceFlaws
  refine (Effect.flawsOf_sift c.effects).bind fun effects heffects => ?_
  have hnext : Sifts (α := α) (.ok (flawUnless (s.hasNode c.next)
      (Flaw.unknownNode (.choice n.id index) c.next))) [] := .silent (Finds.present rfl)
  have hloop : Sifts (α := α) (.ok (flawUnless (c.next ≠ n.id || n.puzzle.isSome || !c.effects.isEmpty)
      (Flaw.idleLoop n.id))) [] := .silent (Finds.present rfl)
  have hrequired : Sifts (α := α) (.ok ((Requirement.conditions? c.requirement).flatMap
      (Condition.flaws s (.choice n.id index)))) [] := .silent (Finds.flatMap fun c _ => c.flaws_silent)
  have h := ((hnext.append hloop).append heffects).append hrequired
  rwa [List.append_nil] at h

theorem choices_sift (choices : List (Choice α)) : ∀ index, Sifts (n.choicesFlaws s index choices)
    ((choices.zipIdx index).flatMap fun c => Effect.tables (.choiceEffects n.id c.2) c.1.effects) := by
  induction choices with
  | nil => exact fun _ => .silent Finds.nil
  | cons c rest ih => exact fun index => (choice_sifts index c).both (ih (index + 1))

theorem flaws_sift : Sifts (n.flaws language s) n.lootTables := by
  have hending : Sifts (α := α) (.ok (flawUnless (!n.isEnding || n.choices.isEmpty)
      (Flaw.endingWithChoices n.id))) [] := .silent (Finds.present rfl)
  have hmedia : Sifts (α := α) (.ok (mediaFlaws s (.node n.id) n.media)) [] := media_silent n.media
  unfold flaws
  refine (Effect.flawsOf_sift n.onEnterEffects).bind fun entry hentry => ?_
  refine (choices_sift n.choices 0).bind fun choices hchoices => ?_
  have hfront := ((hmedia.append hentry).append hending).append hchoices
  rw [List.nil_append, List.append_nil] at hfront
  unfold lootTables
  dsimp only
  cases n.puzzle with
  | none => exact hfront.append (.silent Finds.nil)
  | some p =>
    refine Puzzle.flaws_sift.bind fun puzzle hpuzzle => ?_
    show Sifts _ (_ ++ [p].flatMap Puzzle.lootTables)
    rw [List.flatMap_singleton]
    exact hfront.append hpuzzle

end Node

namespace Story

theorem nodes_sift (nodes : List (Node α)) :
    Sifts (s.nodeFlaws language nodes) (nodes.flatMap Node.lootTables) := by
  induction nodes with
  | nil => exact .silent Finds.nil
  | cons n rest ih => exact Node.flaws_sift.both ih

omit [Number α] in
theorem ids_silent : Silent (.ok s.idFlaws) := by
  have hduplicates : ∀ kind ids, Silent (.ok (duplicates kind ids)) := by
    intro kind ids
    refine Finds.of_all fun f hf => ?_
    obtain ⟨id, -, rfl⟩ := List.mem_map.1 hf
    rfl
  exact (((((hduplicates _ _).append (hduplicates _ _)).append (hduplicates _ _)).append
    (hduplicates _ _)).append (hduplicates _ _)).append (hduplicates _ _)

omit [Number α] in
theorem metadata_silent : Silent (.ok s.metadataFlaws) :=
  (((reference_silent rfl).append (reference_silent rfl)).append (reference_silent rfl)).append
    (reference_silent rfl)

theorem stats_silent {found : List (List Flaw)} (h : s.stats.mapM statFlaws = .ok found) :
    Sifts (α := α) (.ok found.flatten) [] := by
  exact .silent (Finds.mapM (stat_finds (fun _ _ _ => rfl) fun _ _ _ _ => rfl) h)

/-- The check of a story warns of its hollow loot tables, each with its place, and of no other ones. -/
theorem flaws_sift : Sifts (s.flaws language) s.lootTables := by
  have hunreferenced : Sifts (α := α) (.ok s.unreferenced) [] := by
    refine .silent (Finds.of_all fun f hf => ?_)
    obtain ⟨_, -, n, -, rfl, -⟩ := mem_unreferenced.1 hf
    rfl
  have hcycles : Sifts (α := α) (.ok ((Redirects.cycles s.redirects).map .redirectCycle)) [] := by
    refine .silent (Finds.of_all fun f hf => ?_)
    obtain ⟨cycle, -, rfl⟩ := List.mem_map.1 hf
    rfl
  unfold flaws
  intro found hfound
  obtain ⟨stats, hstats, hfound⟩ := bind_eq_ok.1 hfound
  refine (nodes_sift s.nodes).bind (fun nodes hnodes => ?_) found hfound
  have hfront : Sifts (α := α) (.ok (s.metadataFlaws ++ s.idFlaws ++ stats.flatten)) [] :=
    (Sifts.silent (metadata_silent.append ids_silent)).append (stats_silent hstats)
  have h := ((hfront.append hnodes).append hunreferenced).append hcycles
  rwa [List.append_nil, List.append_nil] at h

end Story

/-! ## Applying loot tables -/

namespace Effect

/-- Applying a loot table comes to nothing: the failure is reported and logged, and nothing else changes. -/
def Misfires (story : Story α) (table : List (LootEntry α)) (scene : Scene α) : Prop :=
  ∃ line, (line = LogLine.lootEmpty ∨ line = .lootWeightless) ∧
    (applyOne story (.lootTable table)).run scene =
      (.ok (.failure line.text), { scene with log := scene.log ++ [line] })

/-- The weight of an entry, if it is a whole number. -/
def wholeWeight (entry : LootEntry Amount) : Int := (Number.whole? entry.weight).getD 0

/-- What whole weights add up to. -/
def weightTotal (table : List (LootEntry Amount)) : Int := (table.map wholeWeight).sum

/-- Some weight is above zero, but those below zero weigh as much or more. -/
def Outweighed (table : List (LootEntry Amount)) : Prop :=
  weightTotal table ≤ 0 ∧ ∃ entry ∈ table, Number.isPositive entry.weight = true

section

variable {story : Story Amount} {table : List (LootEntry Amount)} {scene : Scene Amount}
  (hwhole : ∀ entry ∈ table, entry.weight.IsWhole)

include hwhole

theorem weights_eq : table.map Weighted.weight = (table.map wholeWeight).map Amount.int := by
  rw [List.map_map]
  refine List.map_congr_left fun entry hentry => ?_
  obtain ⟨n, hn⟩ := hwhole entry hentry
  unfold Function.comp wholeWeight
  rw [hn]
  rfl

theorem hollow_eq : hollow table = decide (weightTotal table ≤ 0) := by
  cases table with
  | nil => rfl
  | cons entry rest =>
    have hsum : Number.sum ((entry :: rest).map Weighted.weight) = .ok (.int (weightTotal (entry :: rest))) := by
      have hfrom := Amount.sumFrom_int ((entry :: rest).map wholeWeight) 0
      rwa [Int.zero_add, ← weights_eq hwhole] at hfrom
    unfold hollow
    rw [hsum, Bool.eq_iff_iff, decide_eq_true_iff]
    exact Amount.atMost_int (weightTotal (entry :: rest)) 0

/-- A loot table comes to nothing just if no weight is above zero, whatever the scene. -/
theorem misfires_iff : Misfires story table scene ↔ (lootTable table).Fails story := by
  constructor
  · rintro ⟨line, hline, hrun⟩
    rw [applyOne_eq] at hrun
    obtain ⟨⟨report, opened⟩, middle, hattempt, hrun⟩ := Step.run_bind_eq_ok.1 hrun
    obtain ⟨nested, last, -, hreport⟩ := Step.run_bind_eq_ok.1 hrun
    have htried := attempt_tried hattempt
    cases htried with
    | simple hsimple => cases hsimple
    | empty => exact fun entry hentry => absurd hentry List.not_mem_nil
    | nothing hdraw => exact (drawEntry_eq_none_iff story hdraw).2.1 rfl
    | drawn =>
      -- the first thing said is that the table was rolled, which no failure says
      have hlogs : "Loot table rolled:" :: nested.logs = [line.text] :=
        congrArg EffectReport.logs (Except.ok.inj (Prod.mk.inj hreport).1)
      have htext := (List.cons.inj hlogs).1
      rcases hline with rfl | rfl <;> exact absurd htext (by decide)
  · intro hfails
    by_cases hempty : table.isEmpty = true
    · refine ⟨.lootEmpty, .inl rfl, ?_⟩
      rw [applyOne, if_pos hempty]
      rfl
    · have hnumbers : ∀ w ∈ table.map Weighted.weight, Number.IsNumber w := by
        intro w hw
        obtain ⟨entry, hentry, rfl⟩ := List.mem_map.1 hw
        obtain ⟨n, hn⟩ := hwhole entry hentry
        rw [hn]
        exact Amount.isNumber_int n
      have hparts : ∀ part ∈ (table.map Weighted.weight).map Draw.positivePart, part.IsWhole := by
        rw [weights_eq hwhole, List.map_map]
        intro part hpart
        obtain ⟨n, -, rfl⟩ := List.mem_map.1 hpart
        exact ⟨max n 0, Amount.positivePart_int n⟩
      obtain ⟨total, hsum, -⟩ := Amount.exact.sum hparts
      have hnone : (table.map Weighted.weight).any Number.isPositive = false := by
        rw [List.any_map, List.any_eq_false]
        exact fun entry hentry => by simp [hfails entry hentry]
      refine ⟨.lootWeightless, .inr rfl, ?_⟩
      rw [applyOne, if_neg hempty, Step.run_bind, run_drawEntry, Draw.pick_nothing hnumbers hsum hnone]
      rfl

theorem weightTotal_nonpos (h : (lootTable table).Fails story) : weightTotal table ≤ 0 := by
  have hle : ∀ n ∈ table.map wholeWeight, n ≤ 0 := by
    intro n hn
    obtain ⟨entry, hentry, rfl⟩ := List.mem_map.1 hn
    have hpos : Number.isPositive entry.weight = false := h entry hentry
    obtain ⟨n, hn⟩ := hwhole entry hentry
    unfold wholeWeight
    rw [hn] at hpos ⊢
    exact not_lt.1 (of_decide_eq_false ((Amount.less_int 0 n).symm.trans hpos))
  have hsum := List.sum_le_card_nsmul _ 0 hle
  rwa [smul_zero] at hsum

end

end Effect

open Effect in
/-- The check of a story comes to its end if nothing in it meets a fault, and where the weights of all loot tables
are whole it warns of those whose weights add up to zero or less, in the order of the story, each with its place.
Applying a loot table comes to nothing just if no weight is above zero, in every scene or in none.  So the warning
is right about a loot table just if it is not outweighed. -/
theorem Story.flaws_lootTables {s : Story Amount} {language : PatternLanguage} (hcheck : s.Checkable language)
    (hwhole : ∀ found ∈ s.lootTables, ∀ entry ∈ found.2, entry.weight.IsWhole) :
    ∃ flaws, s.flaws language = .ok flaws ∧
      flaws.filterMap Flaw.lootPlace? =
        (s.lootTables.filter fun found => weightTotal found.2 ≤ 0).map Prod.fst ∧
      ∀ found ∈ s.lootTables,
        (∀ scene, Misfires s found.2 scene ↔ (lootTable found.2).Fails s) ∧
          ((weightTotal found.2 ≤ 0 ↔ ∀ scene, Misfires s found.2 scene) ↔ ¬ Outweighed found.2) := by
  obtain ⟨verdict, hverdict⟩ := s.check_ends.2 hcheck
  obtain ⟨flaws, hflaws, -⟩ := bind_eq_ok.1 hverdict
  refine ⟨flaws, hflaws, ?_, fun found hfound => ⟨fun scene => misfires_iff (hwhole found hfound), ?_⟩⟩
  · rw [flaws_sift flaws hflaws]
    congr 1
    exact List.filter_congr fun found hfound => hollow_eq (hwhole found hfound)
  · let scene : Scene Amount :=
      { state := State.initial s none, draws := .always (.int 0), clock := .always 0 }
    have hmisfires : (∀ scene, Misfires s found.2 scene) ↔ (lootTable found.2).Fails s :=
      ⟨fun h => (misfires_iff (hwhole found hfound)).1 (h scene),
        fun h _ => (misfires_iff (hwhole found hfound)).2 h⟩
    have hsome : ¬ (lootTable found.2).Fails s ↔ ∃ entry ∈ found.2, Number.isPositive entry.weight = true := by
      simp [Fails]
    have htotal : (lootTable found.2).Fails s → weightTotal found.2 ≤ 0 :=
      weightTotal_nonpos (hwhole found hfound)
    rw [hmisfires, Outweighed, ← hsome, not_and_not_right]
    exact ⟨Iff.mp, fun h => ⟨h, htotal⟩⟩

/-! ## A hall with a chest -/

/-- What is in a chest that is drawn from, although its weights add up to less than zero. -/
def Effect.treasure : List (LootEntry Amount) := [⟨.int 3, [.setFlag "looted" true]⟩, ⟨.int (-5), []⟩]

/-- A hall with nothing to find on entry, a purse on the way out, and a chest on another way out. -/
def Story.hall : Story Amount where
  title := "The hall"
  language := "en"
  version := "1"
  assets := []
  items := []
  currencies := [⟨"gold", "Gold", none⟩]
  stats := []
  nodes :=
    [{ id := "hall", part := 1, isEnding := false, title := "", text := "", media := []
       onEnter := some [.lootTable [⟨.int 1, [.lootTable [⟨.int 0, []⟩]]⟩]], puzzle := none
       choices :=
        [⟨"Take the purse", "end", none, [.lootTable [⟨.int 1, [.addCurrency "gold" (.int 1)]⟩]], none⟩,
          ⟨"Open the chest", "end", none, [.lootTable Effect.treasure], none⟩] },
     { id := "end", part := 1, isEnding := true, title := "", text := "", media := []
       onEnter := none, puzzle := none, choices := [] }]

open Effect in
theorem Story.hall_lootTables :
    ∃ flaws, hall.flaws Pattern.language = .ok flaws ∧
      flaws.filterMap Flaw.lootPlace? =
        (hall.lootTables.filter fun found => weightTotal found.2 ≤ 0).map Prod.fst ∧
      ∀ found ∈ hall.lootTables,
        (∀ scene, Misfires hall found.2 scene ↔ (lootTable found.2).Fails hall) ∧
          ((weightTotal found.2 ≤ 0 ↔ ∀ scene, Misfires hall found.2 scene) ↔ ¬ Outweighed found.2) := by
  have hends : (hall.check Pattern.language).toOption.isSome = true := by decide +kernel
  have hcheck : hall.Checkable Pattern.language := by
    refine hall.check_ends.1 ?_
    cases hverdict : hall.check Pattern.language with
    | ok verdict => exact ⟨verdict, rfl⟩
    | error fault =>
      rw [hverdict] at hends
      cases hends
  exact flaws_lootTables hcheck (by decide +kernel)

open Effect in
/-- The check warns of the chest as of the empty table, but what is in the chest can be drawn. -/
theorem Story.hall_treasure :
    let drawn := (applyOne hall (.lootTable treasure)).run
      { state := State.initial hall none, draws := .always (.float 0.5), clock := .always 0 }
    (hall.flaws Pattern.language).toOption.map (·.filterMap Flaw.lootPlace?) =
        some [.onEnter "hall", .choiceEffects "hall" 1] ∧
      (Place.choiceEffects "hall" 1, treasure) ∈ hall.lootTables ∧
      drawn.1.toOption.map (·.success) = some true ∧ drawn.2.state.flags.get? "looted" = some true := by
  have hlast : hall.lootTables[3]? = some (.choiceEffects "hall" 1, treasure) := rfl
  exact ⟨by decide +kernel, List.mem_of_getElem? hlast, by decide +kernel, by decide +kernel⟩

end StoryRules
