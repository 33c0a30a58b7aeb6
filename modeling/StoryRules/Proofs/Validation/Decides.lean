import StoryRules.Proofs.Step
import StoryRules.Proofs.Validation.WellFormed

/-!
# The check decides well-formedness

A check decides a property if it finds no error just where the property holds.  It comes to an end then,
and also where the property does not hold, unless a number is too long to be told of.  Checks are put
together as the properties are: one check after another decides both, a check of every entry of a list
decides all of them.

    Decides (s.flaws language) (s.WellFormed language)      (Story.flaws_decide)
-/

namespace StoryRules

variable {α : Type}

/-! ## Deciding checks -/

/-- A check finds nothing but warnings just if `P` holds.  It ends, unless `P` fails and a number is too long
to say so. -/
def Decides (check : Except Fault (List Flaw)) (P : Prop) : Prop :=
  (∃ flaws, check = .ok flaws ∧ ((∀ f ∈ flaws, f.isWarning = true) ↔ P)) ∨
    check = .error .unwritable ∧ ¬ P

namespace Decides

variable {P Q : Prop} {check : Except Fault (List Flaw)} {flaws more : List Flaw}

theorem congr (h : Decides check P) (hiff : P ↔ Q) : Decides check Q := by
  obtain ⟨flaws, hflaws, hP⟩ | ⟨hfault, hP⟩ := h
  · exact .inl ⟨flaws, hflaws, hP.trans hiff⟩
  · exact .inr ⟨hfault, mt hiff.2 hP⟩

theorem of_ok (h : Decides (.ok flaws) P) : (∀ f ∈ flaws, f.isWarning = true) ↔ P := by
  obtain ⟨_, ⟨⟩, h⟩ | ⟨⟨⟩, -⟩ := h
  exact h

theorem ok (h : (∀ f ∈ flaws, f.isWarning = true) ↔ P) : Decides (.ok flaws) P :=
  .inl ⟨flaws, rfl, h⟩

theorem nil : Decides (.ok ([] : List Flaw)) True := ok (by simp)

theorem error {flaw : Flaw} (h : flaw.isWarning = false) : Decides (.ok [flaw]) False :=
  ok (by simp [h])

/-- What is only warned of is nothing that has to hold. -/
theorem warnings (h : ∀ f ∈ flaws, f.isWarning = true) : Decides (.ok flaws) True :=
  ok (iff_true_intro h)

/-- Nothing holds of what is told of with a number that may be too long. -/
theorem told {α : Type} [Number α] {a : α} {f : String → Except Fault (List Flaw)}
    (hf : ∀ text, Decides (f text) False) : Decides (Number.text a >>= f) False := by
  by_cases ha : Number.Legible a
  · obtain ⟨text, htext⟩ := Number.text_of_legible ha
    rw [htext]
    exact hf text
  · rw [Number.text_of_not_legible ha]
    exact .inr ⟨rfl, not_false⟩

theorem present {present : Bool} {flaw : Flaw} (h : flaw.isWarning = false) :
    Decides (.ok (flawUnless present flaw)) (present = true) := by
  cases present with
  | true => exact nil.congr (by simp)
  | false => exact (error h).congr (by simp)

theorem warned {present : Bool} {flaw : Flaw} (h : flaw.isWarning = true) :
    Decides (.ok (flawUnless present flaw)) True := by
  refine warnings fun f hf => ?_
  unfold flawUnless at hf
  split at hf
  · cases hf
  · rwa [List.mem_singleton.1 hf]

theorem append (hP : Decides (.ok flaws) P) (hQ : Decides (.ok more) Q) :
    Decides (.ok (flaws ++ more)) (P ∧ Q) := by
  refine ok ?_
  rw [← hP.of_ok, ← hQ.of_ok, List.forall_mem_append]

/-- What follows a check may rely on what the check found; it decides no less than the check does. -/
theorem bind {f : List Flaw → Except Fault (List Flaw)} (h : Decides check P) (hQP : Q → P)
    (hf : ∀ flaws, Decides (.ok flaws) P → Decides (f flaws) Q) : Decides (check >>= f) Q := by
  obtain ⟨flaws, rfl, hP⟩ | ⟨rfl, hP⟩ := h
  · exact hf flaws (ok hP)
  · exact .inr ⟨rfl, mt hQP hP⟩

theorem both {x y : Except Fault (List Flaw)} (hx : Decides x P) (hy : Decides y Q) :
    Decides (do
      let flaws ← x
      let more ← y
      .ok (flaws ++ more)) (P ∧ Q) :=
  hx.bind And.left fun _ hP => hy.bind And.right fun _ hQ => hP.append hQ

theorem flatMap {β : Type} {f : β → List Flaw} {P : β → Prop} {bs : List β}
    (h : ∀ b ∈ bs, Decides (.ok (f b)) (P b)) : Decides (.ok (bs.flatMap f)) (∀ b ∈ bs, P b) := by
  induction bs with
  | nil => exact nil.congr (by simp)
  | cons first rest ih =>
    rw [List.flatMap_cons]
    refine ((h first List.mem_cons_self).append (ih fun b hb => ?_)).congr (by simp)
    exact h b (List.mem_cons_of_mem _ hb)

/-- A check of every entry of a list. -/
theorem mapM {β : Type} {f : β → Except Fault (List Flaw)} {P : β → Prop} {bs : List β}
    (h : ∀ b ∈ bs, Decides (f b) (P b)) :
    (∃ found, bs.mapM f = .ok found ∧ Decides (.ok found.flatten) (∀ b ∈ bs, P b)) ∨
      bs.mapM f = .error .unwritable ∧ ¬ ∀ b ∈ bs, P b := by
  induction bs with
  | nil => exact .inl ⟨[], rfl, nil.congr (by simp)⟩
  | cons first rest ih =>
    rw [List.mapM_cons, List.forall_mem_cons]
    obtain ⟨flaws, hflaws, hfirst⟩ | ⟨hfault, hfirst⟩ := h first List.mem_cons_self
    · obtain ⟨found, hfound, hrest⟩ | ⟨hfault, hrest⟩ := ih fun b hb => h b (List.mem_cons_of_mem _ hb)
      · rw [hflaws, hfound]
        exact .inl ⟨flaws :: found, rfl, (ok hfirst).append hrest⟩
      · rw [hflaws, hfault]
        exact .inr ⟨rfl, fun hall => hrest hall.2⟩
    · rw [hfault]
      exact .inr ⟨rfl, fun hall => hfirst hall.1⟩

/-- What follows a check of every entry of a list. -/
theorem each {β : Type} {f : β → Except Fault (List Flaw)} {P : β → Prop} {bs : List β}
    {g : List (List Flaw) → Except Fault (List Flaw)} (h : ∀ b ∈ bs, Decides (f b) (P b))
    (hQP : Q → ∀ b ∈ bs, P b)
    (hg : ∀ found, Decides (.ok found.flatten) (∀ b ∈ bs, P b) → Decides (g found) Q) :
    Decides (bs.mapM f >>= g) Q := by
  obtain ⟨found, hfound, hall⟩ | ⟨hfault, hall⟩ := mapM h
  · rw [hfound]
    exact hg found hall
  · rw [hfault]
    exact .inr ⟨rfl, mt hQP hall⟩

end Decides

variable [Number α] {exact : α → Prop} {s : Story α} {place : Place}

/-! ## Effects -/

namespace Effect

theorem lock_decides {op node : String} {index : Int} :
    Decides (lockFlaws s place op node index)
      (∃ n, s.node? node = some n ∧ 0 ≤ index ∧ index < n.choices.length) := by
  unfold lockFlaws
  cases hn : s.node? node with
  | none => exact (Decides.error rfl).congr (by simp)
  | some n =>
    dsimp only
    split
    · next hrange => exact Decides.nil.congr (by simpa using hrange)
    · next hrange =>
      refine Decides.congr (Decides.told fun _ => Decides.error rfl) ?_
      simpa using hrange

theorem loot_decides (arithmetic : Number.Exact exact) {table : List (LootEntry α)}
    (h : ∀ entry ∈ table, exact entry.weight) : Decides ((lootTable table).flaws s place) True := by
  rw [flaws]
  split
  · exact Decides.warnings (by simp [Flaw.isWarning])
  · have hweights : ∀ w ∈ table.map Weighted.weight, exact w := by
      intro w hw
      obtain ⟨entry, hentry, rfl⟩ := List.mem_map.1 hw
      exact h entry hentry
    obtain ⟨total, htotal, -⟩ := arithmetic.sum hweights
    rw [htotal]
    exact Decides.warned rfl

theorem one_decides (arithmetic : Number.Exact exact) {e : Effect α}
    (h : ∀ table, e = lootTable table → ∀ entry ∈ table, exact entry.weight) :
    Decides (e.flaws s place) (e.Resolves s) := by
  cases e with
  | addItem item quantity => exact Decides.present rfl
  | removeItem item quantity => exact Decides.present rfl
  | addCurrency currency value => exact Decides.warned rfl
  | addStat stat value => exact Decides.present rfl
  | setFlag flag value => exact Decides.nil
  | log message => exact Decides.nil
  | goto target => exact Decides.present rfl
  | lockChoice node index => exact lock_decides
  | unlockChoice node index => exact lock_decides
  | setTimer timer duration => exact Decides.nil
  | lootTable table => exact loot_decides arithmetic (h table rfl)

/-- The check of a list of effects decides whether all that it names is there, at any depth. -/
theorem flawsOf_decides (arithmetic : Number.Exact exact) {effects : List (Effect α)}
    (h : ExactWeights exact effects) :
    Decides (flawsOf s place effects) (Effect.WellFormed s effects) := by
  have hone : ∀ e ∈ walk effects, Decides (e.flaws s place) (e.Resolves s) := by
    intro e he
    refine one_decides arithmetic ?_
    rintro table rfl
    exact h table (mem_walk_iff_occurs.1 he)
  have hall : (∀ e ∈ walk effects, e.Resolves s) ↔ Effect.WellFormed s effects := by
    unfold Effect.WellFormed
    simp only [mem_walk_iff_occurs]
  unfold flawsOf
  exact Decides.each hone hall.2 fun found hfound => hfound.congr hall

end Effect

/-! ## Requirements -/

namespace Condition

omit [Number α] in
theorem named_warned {present : String → Bool} {flaw : String → Flaw}
    (h : ∀ id, (flaw id).isWarning = true) (id : Option String) :
    Decides (.ok (flawUnlessNamed present flaw id)) True := by
  cases id with
  | none => exact Decides.nil
  | some id => exact Decides.warned (h id)

omit [Number α] in
theorem decides (c : Condition α) : Decides (.ok (c.flaws s place)) (c.Resolves s) := by
  cases c with
  | hasItem item quantity => cases item <;> first | exact Decides.nil | exact Decides.present rfl
  | inventoryLt item quantity => cases item <;> first | exact Decides.nil | exact Decides.present rfl
  | statGte stat value => cases stat <;> first | exact Decides.nil | exact Decides.present rfl
  | statBetween stat low high => cases stat <;> first | exact Decides.nil | exact Decides.present rfl
  | visitedNode node => cases node <;> first | exact Decides.nil | exact Decides.present rfl
  | currencyGte currency value => exact named_warned (fun _ => rfl) _
  | currencyLt currency value => exact named_warned (fun _ => rfl) _
  | puzzleSolved puzzle => exact named_warned (fun _ => rfl) _
  | flagIs flag value => exact Decides.nil

end Condition

omit [Number α] in
theorem Requirement.decides {requirement : Option (Requirement α)} :
    Decides (.ok ((Requirement.conditions? requirement).flatMap (Condition.flaws s place)))
      (∀ r, requirement = some r → ∀ leaf, r.Leaf leaf → leaf.Resolves s) := by
  refine (Decides.flatMap fun c _ => c.decides).congr ?_
  cases requirement with
  | none => simp [conditions?]
  | some r => simp [conditions?, mem_conditions_iff_leaf]

omit [Number α] in
theorem media_decides {media : List MediaRef} :
    Decides (.ok (mediaFlaws s place media)) (MediaDeclared s media) :=
  Decides.flatMap fun _ _ => Decides.present rfl

/-! ## Puzzles -/

namespace Puzzle

variable {language : PatternLanguage} {p : Puzzle α}

theorem outcome_decides (arithmetic : Number.Exact exact) {success : Bool} {o : Outcome α}
    (h : Effect.ExactWeights exact o.effects) :
    Decides (outcomeFlaws s place success o) (o.WellFormed s) := by
  unfold outcomeFlaws
  have hnext : Decides (.ok (o.next.toList.flatMap fun id =>
      flawUnless (s.hasNode id) (.unknownNode (.outcome place success) id)))
      (∀ id ∈ o.next.toList, s.hasNode id = true) := Decides.flatMap fun _ _ => Decides.present rfl
  refine (Effect.flawsOf_decides arithmetic h).bind Outcome.WellFormed.effects fun flaws heffects => ?_
  refine (hnext.append heffects).congr ?_
  constructor
  · rintro ⟨hnext, heffects⟩
    exact ⟨fun target htarget => hnext target (by simp [htarget]), heffects⟩
  · rintro ⟨hnext, heffects⟩
    exact ⟨fun target htarget => hnext target (by simpa using htarget), heffects⟩

omit [Number α] in
/-- The patterns of the language are those that compile, all others being no patterns. -/
theorem pattern_decides (hfixed : ∀ pattern flags fault, language pattern flags ≠ .error (.fault fault))
    (task : Task α) : Decides (patternFlaws language place task) (task.Compiles language) := by
  unfold patternFlaws
  split
  · next pattern flags =>
    split
    · next test htest =>
      refine Decides.nil.congr (iff_of_true trivial ?_)
      rintro _ _ ⟨⟩
      exact ⟨test, htest⟩
    · next message hinvalid =>
      refine (Decides.error rfl).congr (iff_of_false not_false ?_)
      intro h
      obtain ⟨test, htest⟩ := h pattern flags rfl
      rw [hinvalid] at htest
      cases htest
    · next fault hfault => exact absurd hfault (hfixed pattern flags fault)
  · next hother =>
    refine Decides.nil.congr (iff_of_true trivial ?_)
    rintro pattern flags rfl
    exact absurd rfl (hother pattern flags)

/-- What is asked of a puzzle, in the fields that are looked at. -/
structure PartlyWellFormed (language : PatternLanguage) (s : Story α) (considered : String → Bool)
    (p : Puzzle α) : Prop where
  media : considered "media" = true → MediaDeclared s p.media
  outcome : ∀ success o, considered (outcomeName success) = true → p.outcome? success = some o →
    o.WellFormed s
  pattern : (considered "kind" || considered "pattern" || considered "flags") = true →
    p.task.Compiles language

omit [Number α] in
theorem mem_outcomes_iff {o : Bool × Outcome α} :
    o ∈ p.outcomes ↔ p.outcome? o.1 = some o.2 := by
  obtain ⟨success, o⟩ := o
  unfold outcomes
  cases success <;> simp [outcome?]

theorem own_decides (arithmetic : Number.Exact exact)
    (hfixed : ∀ pattern flags fault, language pattern flags ≠ .error (.fault fault))
    (h : p.ExactWeights exact) (considered : String → Bool) :
    Decides (p.ownFlaws language s place considered) (p.PartlyWellFormed language s considered) := by
  have hmedia : Decides (.ok (if considered "media" = true then mediaFlaws s place p.media else []))
      (considered "media" = true → MediaDeclared s p.media) := by
    cases considered "media" with
    | true => exact media_decides.congr (by simp)
    | false => exact Decides.nil.congr (by simp)
  have hone : ∀ o ∈ p.outcomes.filter fun o => considered (outcomeName o.1),
      Decides (outcomeFlaws s place o.1 o.2) (o.2.WellFormed s) := by
    intro o ho
    exact outcome_decides arithmetic (h o.1 o.2 (mem_outcomes_iff.1 (List.mem_filter.1 ho).1))
  have hparts : (((considered "media" = true → MediaDeclared s p.media) ∧
      ∀ o ∈ p.outcomes.filter fun o => considered (outcomeName o.1), o.2.WellFormed s) ∧
      ((considered "kind" || considered "pattern" || considered "flags") = true →
        p.task.Compiles language)) ↔ p.PartlyWellFormed language s considered := by
    constructor
    · rintro ⟨⟨hmedia, houtcomes⟩, hpattern⟩
      refine ⟨hmedia, fun success o hname ho => ?_, hpattern⟩
      exact houtcomes (success, o) (List.mem_filter.2 ⟨mem_outcomes_iff.2 ho, hname⟩)
    · rintro ⟨hmedia, houtcomes, hpattern⟩
      refine ⟨⟨hmedia, fun o ho => ?_⟩, hpattern⟩
      obtain ⟨ho, hname⟩ := List.mem_filter.1 ho
      exact houtcomes o.1 o.2 hname (mem_outcomes_iff.1 ho)
  rw [← hparts]
  unfold ownFlaws
  refine Decides.each hone (fun h => h.1.2) fun found houtcomes => ?_
  dsimp only
  split
  · next hname =>
    refine (pattern_decides hfixed p.task).bind (fun h => h.2 hname) fun flaws hpattern => ?_
    exact ((hmedia.append houtcomes).append hpattern).congr (by simp [hname])
  · next hname =>
    exact ((hmedia.append houtcomes).append Decides.nil).congr (by simp [hname])

omit [Number α] in
theorem wellFormed_iff_partly :
    p.WellFormed language s ↔ p.PartlyWellFormed language s fun _ => true :=
  ⟨fun h => ⟨fun _ => h.media, fun success o _ => h.outcome success o, fun _ => h.pattern⟩,
    fun h => ⟨h.media rfl, fun success o => h.outcome success o rfl, h.pattern rfl⟩⟩

/-! ## Variants -/

omit [Number α] in
theorem keepsId_iff {v : Variant α} :
    p.keepsId v = true ↔ ∀ d, v.item.get? "id" = some d → d = .text p.id := by
  refine ⟨keepsId_eq_true, fun h => ?_⟩
  unfold keepsId
  cases hid : v.item.get? "id" with
  | none => rfl
  | some d =>
    rw [h d hid]
    exact decide_eq_true rfl

theorem variant_decides (arithmetic : Number.Exact exact)
    (hfixed : ∀ pattern flags fault, language pattern flags ≠ .error (.fault fault)) {v : Variant α}
    (h : ∀ q, p.withVariant v = .ok q → q.ExactWeights exact) :
    Decides (p.variantFlaws language s place v)
      ((∀ d, v.item.get? "id" = some d → d = .text p.id) ∧
        ∃ q, p.withVariant v = .ok q ∧ q.PartlyWellFormed language s v.item.has) := by
  unfold variantFlaws checkVariant
  cases hkeeps : p.keepsId v with
  | false =>
    refine (Decides.error rfl).congr (iff_of_false not_false ?_)
    rintro ⟨hid, -⟩
    rw [keepsId_iff.2 hid] at hkeeps
    cases hkeeps
  | true =>
    have hid := keepsId_iff.1 hkeeps
    cases hwith : p.withVariant v with
    | bad problems =>
      refine (Decides.error rfl).congr (iff_of_false not_false ?_)
      rintro ⟨-, _, ⟨⟩, -⟩
    | ok q =>
      refine (own_decides arithmetic hfixed (h q hwith) _).congr ?_
      constructor
      · exact fun hq => ⟨hid, q, rfl, hq⟩
      · rintro ⟨-, _, ⟨⟩, hq⟩
        exact hq

/-- Of a puzzle that a variant makes it is enough to look at the fields that the variant names: all
others are those of the puzzle. -/
theorem admits_iff [FaithfulNumber α] (hp : p.WellFormed language s) {v : Variant α} :
    p.Admits language s v ↔ (∀ d, v.item.get? "id" = some d → d = .text p.id) ∧
      ∃ q, p.withVariant v = .ok q ∧ q.PartlyWellFormed language s v.item.has := by
  constructor
  · rintro ⟨hid, q, hwith, hq⟩
    exact ⟨hid, q, hwith, fun _ => hq.media, fun success o _ => hq.outcome success o,
      fun _ => hq.pattern⟩
  · rintro ⟨hid, q, hwith, hmedia, houtcome, hpattern⟩
    refine ⟨hid, q, hwith, ?_, fun success o ho => ?_, ?_⟩
    · cases hname : v.item.has "media" with
      | true => exact hmedia hname
      | false =>
        rw [media_withVariant hwith hname]
        exact hp.media
    · cases hname : v.item.has (outcomeName success) with
      | true => exact houtcome success o hname ho
      | false => exact hp.outcome success o (outcome?_withVariant hwith hname ▸ ho)
    · cases hname : v.item.has "kind" || v.item.has "pattern" || v.item.has "flags" with
      | true => exact hpattern hname
      | false =>
        rw [Bool.or_eq_false_iff, Bool.or_eq_false_iff] at hname
        intro pattern flags htask
        exact hp.pattern pattern flags
          (regex_withVariant hwith hname.1.1 hname.1.2 hname.2 htask)

theorem variants_decide {P : Variant α → Prop} {variants : List (Variant α)}
    (h : ∀ v ∈ variants, ∀ place, Decides (p.variantFlaws language s place v) (P v)) :
    ∀ index, Decides (p.variantsFlaws language s place index variants) (∀ v ∈ variants, P v) := by
  induction variants with
  | nil => exact fun index => Decides.nil.congr (by simp)
  | cons first rest ih =>
    intro index
    unfold variantsFlaws
    refine ((h first List.mem_cons_self _).both (ih (fun v hv => ?_) (index + 1))).congr (by simp)
    exact h v (List.mem_cons_of_mem _ hv)

omit [Number α] in
theorem hint_warned : Decides (.ok (p.hintFlaws s place)) True := by
  unfold hintFlaws
  split
  · exact Decides.warned rfl
  · exact Decides.nil

/-- The check of a puzzle decides whether it is well-formed and admits each of its variants. -/
theorem flaws_decide [FaithfulNumber α] (arithmetic : Number.Exact exact)
    (hfixed : ∀ pattern flags fault, language pattern flags ≠ .error (.fault fault))
    (h : p.ExactWeights exact)
    (hvariants : ∀ v ∈ p.variants, ∀ q, p.withVariant v = .ok q → q.ExactWeights exact) :
    Decides (p.flaws language s)
      (p.WellFormed language s ∧ ∀ v ∈ p.variants, p.Admits language s v) := by
  unfold flaws
  have hwhole : (p.PartlyWellFormed language s fun _ => true) ∧ (∀ v ∈ p.variants,
      (∀ d, v.item.get? "id" = some d → d = .text p.id) ∧
        ∃ q, p.withVariant v = .ok q ∧ q.PartlyWellFormed language s v.item.has) ↔
      p.WellFormed language s ∧ ∀ v ∈ p.variants, p.Admits language s v := by
    rw [← wellFormed_iff_partly]
    exact and_congr_right fun hp => forall₂_congr fun v _ => (admits_iff hp).symm
  refine (own_decides arithmetic hfixed h _).bind (fun h => (hwhole.2 h).1) fun own hown => ?_
  refine (variants_decide (fun v hv place => variant_decides arithmetic hfixed (hvariants v hv)) 0).bind
    (fun h => (hwhole.2 h).2) fun variants hadmitted => ?_
  exact ((hown.append hint_warned).append hadmitted).congr (by rw [and_true, hwhole])

end Puzzle

/-! ## Nodes -/

namespace Node

variable {language : PatternLanguage} {n : Node α}

theorem choice_decides (arithmetic : Number.Exact exact) (index : Nat) {c : Choice α}
    (h : Effect.ExactWeights exact c.effects) :
    Decides (n.choiceFlaws s index c) (c.WellFormed s n) := by
  have hnext : Decides (.ok (flawUnless (s.hasNode c.next)
      (.unknownNode (.choice n.id index) c.next))) (s.hasNode c.next = true) := Decides.present rfl
  have hmoves : Decides (.ok (flawUnless
      (c.next ≠ n.id || n.puzzle.isSome || !c.effects.isEmpty) (.idleLoop n.id)))
      (c.next = n.id → n.puzzle ≠ none ∨ c.effects ≠ []) := by
    refine (Decides.present rfl).congr ?_
    by_cases hloop : c.next = n.id
    · cases n.puzzle <;> simp [hloop]
    · simp [hloop]
  unfold choiceFlaws
  refine (Effect.flawsOf_decides arithmetic h).bind Choice.WellFormed.effects fun flaws heffects => ?_
  refine (((hnext.append hmoves).append heffects).append Requirement.decides).congr ?_
  exact ⟨fun ⟨⟨⟨hnext, hmoves⟩, heffects⟩, hrequired⟩ => ⟨hnext, hmoves, heffects, hrequired⟩,
    fun ⟨hnext, hmoves, heffects, hrequired⟩ => ⟨⟨⟨hnext, hmoves⟩, heffects⟩, hrequired⟩⟩

theorem choices_decide (arithmetic : Number.Exact exact) {choices : List (Choice α)}
    (h : ∀ c ∈ choices, Effect.ExactWeights exact c.effects) :
    ∀ index, Decides (n.choicesFlaws s index choices) (∀ c ∈ choices, c.WellFormed s n) := by
  induction choices with
  | nil => exact fun index => Decides.nil.congr (by simp)
  | cons first rest ih =>
    intro index
    unfold choicesFlaws
    have hfirst := choice_decides (n := n) (s := s) arithmetic index (h first List.mem_cons_self)
    exact (hfirst.both (ih (fun c hc => h c (List.mem_cons_of_mem _ hc)) (index + 1))).congr (by simp)

theorem flaws_decide [FaithfulNumber α] (arithmetic : Number.Exact exact)
    (hfixed : ∀ pattern flags fault, language pattern flags ≠ .error (.fault fault))
    (hs : s.ExactAmounts exact) (hn : n ∈ s.nodes) :
    Decides (n.flaws language s) (n.WellFormed language s) := by
  have hmedia : Decides (.ok (mediaFlaws s (.node n.id) n.media)) (MediaDeclared s n.media) :=
    media_decides
  have hending : Decides (.ok (flawUnless (!n.isEnding || n.choices.isEmpty)
      (.endingWithChoices n.id))) (n.isEnding = true → n.choices = []) := by
    refine (Decides.present rfl).congr ?_
    cases n.isEnding <;> simp
  unfold flaws
  dsimp only
  refine (Effect.flawsOf_decides arithmetic (hs.entry n hn)).bind Node.WellFormed.entry
    fun entry hentry => ?_
  refine (choices_decide arithmetic (hs.choice n hn) 0).bind Node.WellFormed.choice
    fun choices hchoices => ?_
  have hfront := ((hmedia.append hentry).append hending).append hchoices
  split
  · next p hp =>
    have hpuzzle : Decides (p.flaws language s)
        (p.WellFormed language s ∧ ∀ v ∈ p.variants, p.Admits language s v) :=
      Puzzle.flaws_decide arithmetic hfixed (hs.puzzle n hn p hp) (hs.variant n hn p hp)
    refine hpuzzle.bind (fun h => h.puzzle p hp) fun puzzle hpuzzle =>
      (hfront.append hpuzzle).congr ?_
    constructor
    · rintro ⟨⟨⟨⟨hmedia, hentry⟩, hending⟩, hchoices⟩, hpuzzle⟩
      refine ⟨hmedia, hentry, hending, hchoices, fun p' hp' => ?_⟩
      cases hp.symm.trans hp'
      exact hpuzzle
    · rintro ⟨hmedia, hentry, hending, hchoices, hpuzzle⟩
      exact ⟨⟨⟨⟨hmedia, hentry⟩, hending⟩, hchoices⟩, hpuzzle p hp⟩
  · next hp =>
    refine (hfront.append Decides.nil).congr ?_
    constructor
    · rintro ⟨⟨⟨⟨hmedia, hentry⟩, hending⟩, hchoices⟩, -⟩
      refine ⟨hmedia, hentry, hending, hchoices, fun p' hp' => ?_⟩
      cases hp.symm.trans hp'
    · rintro ⟨hmedia, hentry, hending, hchoices, -⟩
      exact ⟨⟨⟨⟨hmedia, hentry⟩, hending⟩, hchoices⟩, trivial⟩

end Node

/-! ## Stories -/

namespace Story

variable {language : PatternLanguage}

/-- Ids that are apart from each other and from those seen before are not repeated. -/
theorem repeated_eq_nil_iff (ids : List String) : ∀ seen : List String,
    repeated seen ids = [] ↔ ids.Nodup ∧ ∀ id ∈ ids, id ∉ seen := by
  refine fun seen => ⟨repeated_eq_nil seen, ?_⟩
  induction ids generalizing seen with
  | nil => exact fun _ => rfl
  | cons first rest ih =>
    rintro ⟨hnodup, hseen⟩
    obtain ⟨hnew, hrest⟩ := List.nodup_cons.1 hnodup
    have hfirst : ¬seen.contains first = true := by
      rw [List.contains_eq_mem, decide_eq_true_eq]
      exact hseen first List.mem_cons_self
    rw [repeated, if_neg hfirst]
    refine ih _ ⟨hrest, fun id hid hmem => ?_⟩
    rcases List.mem_cons.1 hmem with rfl | hmem
    · exact hnew hid
    · exact hseen id (List.mem_cons_of_mem _ hid) hmem

theorem duplicates_decide {kind : String} {ids : List String} :
    Decides (.ok (duplicates kind ids)) ids.Nodup := by
  have hnodup := repeated_eq_nil_iff ids []
  unfold duplicates
  refine Decides.ok ?_
  cases hrepeated : repeated [] ids with
  | nil => simpa [hrepeated] using hnodup
  | cons id rest => simpa [hrepeated, Flaw.isWarning] using hnodup

theorem stat_decides (arithmetic : Number.Exact exact) {t : Stat α}
    (h : exact t.min ∧ exact t.max ∧ exact t.start) :
    Decides (statFlaws t)
      (Number.atMost t.min t.start = true ∧ Number.atMost t.start t.max = true) := by
  obtain ⟨hmin, hmax, hstart⟩ := h
  unfold statFlaws
  split
  · next hless =>
    refine Decides.congr (Decides.told fun _ => Decides.told fun _ => Decides.error rfl)
      (iff_of_false not_false ?_)
    rintro ⟨hlow, hhigh⟩
    have hbounds := arithmetic.trans _ _ _ hmin hstart hmax hlow hhigh
    rw [arithmetic.not_less _ _ hmin hmax hbounds] at hless
    cases hless
  · rw [← Bool.and_eq_true_iff]
    split
    · next hbounds => exact Decides.nil.congr (iff_of_true trivial hbounds)
    · next hbounds =>
      exact Decides.congr (Decides.told fun _ => Decides.told fun _ => Decides.told fun _ =>
        Decides.error rfl) (iff_of_false not_false hbounds)

omit [Number α] in
theorem metadata_decides : Decides (.ok s.metadataFlaws)
    (((s.title ≠ "" ∧ s.language ≠ "") ∧ s.version ≠ "") ∧ s.nodes ≠ []) := by
  unfold metadataFlaws
  refine ((((Decides.present rfl).append (Decides.present rfl)).append (Decides.present rfl)).append
    (Decides.present rfl)).congr ?_
  simp

theorem nodes_decide {nodes : List (Node α)} {P : Node α → Prop}
    (h : ∀ n ∈ nodes, Decides (n.flaws language s) (P n)) :
    Decides (s.nodeFlaws language nodes) (∀ n ∈ nodes, P n) := by
  induction nodes with
  | nil => exact Decides.nil.congr (by simp)
  | cons first rest ih =>
    unfold nodeFlaws
    refine ((h first List.mem_cons_self).both (ih fun n hn => ?_)).congr (by simp)
    exact h n (List.mem_cons_of_mem _ hn)

theorem unreferenced_warned : Decides (.ok s.unreferenced) True := by
  refine Decides.warnings fun f hf => ?_
  unfold unreferenced at hf
  split at hf
  · cases hf
  · obtain ⟨n, -, rfl⟩ := List.mem_map.1 hf
    rfl

omit [Number α] in
theorem cycles_warned :
    Decides (.ok ((Redirects.cycles s.redirects).map .redirectCycle)) True := by
  refine Decides.warnings fun f hf => ?_
  obtain ⟨cycle, -, rfl⟩ := List.mem_map.1 hf
  rfl

omit [Number α] in
theorem ids_decide : Decides (.ok s.idFlaws)
    ((((((s.nodes.map (·.id)).Nodup ∧ (s.assets.map (·.id)).Nodup) ∧ (s.items.map (·.id)).Nodup) ∧
      (s.stats.map (·.id)).Nodup) ∧ (s.currencies.map (·.id)).Nodup) ∧
      (s.puzzles.map (·.2.id)).Nodup) :=
  ((((duplicates_decide.append duplicates_decide).append duplicates_decide).append
    duplicates_decide).append duplicates_decide).append duplicates_decide

theorem flaws_decide [FaithfulNumber α] (arithmetic : Number.Exact exact)
    (hfixed : ∀ pattern flags fault, language pattern flags ≠ .error (.fault fault))
    (hs : s.ExactAmounts exact) : Decides (s.flaws language) (s.WellFormed language) := by
  have hstats : ∀ t ∈ s.stats, Decides (statFlaws t)
      (Number.atMost t.min t.start = true ∧ Number.atMost t.start t.max = true) :=
    fun t ht => stat_decides arithmetic (hs.stat t ht)
  have hnodes := nodes_decide fun n hn => Node.flaws_decide arithmetic hfixed hs hn
  unfold flaws
  refine Decides.each hstats WellFormed.bounds fun stats hbounds => ?_
  refine hnodes.bind WellFormed.node fun found hfound => ?_
  refine (((((metadata_decides.append ids_decide).append hbounds).append hfound).append
    unreferenced_warned).append cycles_warned).congr ?_
  rw [and_true, and_true]
  constructor
  · rintro ⟨⟨⟨⟨⟨⟨htitle, hlanguage⟩, hversion⟩, hsome⟩,
      ⟨⟨⟨⟨hnodeIds, hassetIds⟩, hitemIds⟩, hstatIds⟩, hcurrencyIds⟩, hpuzzleIds⟩, hbounds⟩, hnode⟩
    exact ⟨htitle, hlanguage, hversion, hsome, hnodeIds, hassetIds, hitemIds, hstatIds, hcurrencyIds,
      hpuzzleIds, hbounds, hnode⟩
  · intro h
    exact ⟨⟨⟨⟨⟨⟨h.title, h.language⟩, h.version⟩, h.nodes⟩,
      ⟨⟨⟨⟨h.nodeIds, h.assetIds⟩, h.itemIds⟩, h.statIds⟩, h.currencyIds⟩, h.puzzleIds⟩, h.bounds⟩,
      h.node⟩

/-- The check of a story finds no error just if the story is well-formed.  It may have no end, but only
where an error has to be told. -/
theorem check_decides [FaithfulNumber α] (arithmetic : Number.Exact exact)
    (hfixed : ∀ pattern flags fault, language pattern flags ≠ .error (.fault fault))
    (hs : s.ExactAmounts exact) :
    (∃ verdict, s.check language = .ok verdict ∧ (verdict.valid = true ↔ s.WellFormed language)) ∨
      s.check language = .error .unwritable ∧ ¬ s.WellFormed language := by
  unfold check
  obtain ⟨flaws, hflaws, hiff⟩ | ⟨hfault, hill⟩ := flaws_decide arithmetic hfixed hs
  · refine .inl ⟨.ofFlaws flaws, ?_, ?_⟩
    · rw [hflaws]
      rfl
    · rw [← hiff]
      simp [Verdict.valid, Verdict.ofFlaws]
  · rw [hfault]
    exact .inr ⟨rfl, hill⟩

end Story

/-- A language that refuses a pattern where another one meets a fault. -/
def PatternLanguage.settled (language : PatternLanguage) : PatternLanguage := fun pattern flags =>
  match language pattern flags with
  | .error (.fault fault) => .error (.invalid fault.message)
  | result => result

theorem PatternLanguage.settled_ne_fault (language : PatternLanguage) (pattern flags : String)
    (fault : Fault) : language.settled pattern flags ≠ .error (.fault fault) := by
  unfold settled
  split
  · exact nofun
  · next hother => exact fun h => hother fault h

theorem Story.riddle_exactAmounts : Story.riddle.ExactAmounts Amount.IsWhole := by
  have hflat : ∀ {effects : List (Effect Amount)}, (∀ table, .lootTable table ∉ Effect.walk effects) →
      Effect.ExactWeights Amount.IsWhole effects := by
    intro effects h table htable
    exact absurd (Effect.mem_walk_iff_occurs.2 htable) (h table)
  have hpuzzle : Puzzle.riddle.ExactWeights Amount.IsWhole := by
    rintro (_ | _) o ⟨⟩
    · exact hflat (by simp [Effect.walk, Effect.walkOne])
    · exact hflat (by simp [Effect.walk, Effect.walkOne])
  refine ⟨?stat, ?entry, ?choice, ?puzzle, ?variant⟩
  case stat =>
    simp only [riddle, List.mem_singleton, forall_eq]
    exact ⟨⟨0, rfl⟩, ⟨10, rfl⟩, ⟨5, rfl⟩⟩
  case entry =>
    simp only [riddle, List.mem_cons, List.not_mem_nil, or_false, forall_eq_or_imp, forall_eq]
    exact ⟨hflat (by simp [Node.onEnterEffects, Effect.walk]),
      hflat (by simp [Node.onEnterEffects, Effect.walk])⟩
  case choice =>
    simp only [riddle, List.mem_cons, List.not_mem_nil, or_false, forall_eq_or_imp, forall_eq]
    exact ⟨hflat (by simp [Effect.walk, Effect.walkOne]), fun _ hc => hc.elim⟩
  case puzzle =>
    simp only [riddle, List.mem_cons, List.not_mem_nil, or_false, forall_eq_or_imp, forall_eq]
    refine ⟨fun p hp => ?_, fun _ hp => by cases hp⟩
    rw [← Option.some.inj hp]
    exact hpuzzle
  case variant =>
    simp only [riddle, List.mem_cons, List.not_mem_nil, or_false, forall_eq_or_imp, forall_eq]
    refine ⟨fun p hp v hv q hq => ?_, fun _ hp => by cases hp⟩
    obtain rfl := Option.some.inj hp
    obtain rfl := List.mem_singleton.1 hv
    intro success o ho
    refine hpuzzle success o ?_
    rw [← Puzzle.outcome?_withVariant hq (by cases success <;> decide), ho]

end StoryRules
