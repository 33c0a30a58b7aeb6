import StoryRules.Proofs.Validation.Decides

/-!
# Stories that can be checked

The check of a story comes to an end just if nothing on its way meets a fault: the weights of each
loot table have a sum, the language either takes a pattern or says what is wrong with it, and the
numbers that an error has to name can be written.  This is asked of effects at any depth, and of the
puzzles that variants make as well.

    (∃ verdict, s.check language = .ok verdict) ↔ s.Checkable language      (Story.check_ends)

With exact weights and a language that meets no fault only the numbers in errors are left, so the check
tells well-formed stories from others, and a story that it cannot check is none of them.
-/

namespace StoryRules

variable {α β γ : Type}

/-! ## Checks that come to an end -/

/-- A step of a check comes to an end just if `P` holds. -/
def EndsIff (x : Except Fault β) (P : Prop) : Prop := (∃ b, x = .ok b) ↔ P

namespace EndsIff

variable {P Q : Prop} {x : Except Fault β}

theorem congr (h : EndsIff x P) (hiff : P ↔ Q) : EndsIff x Q := h.trans hiff

theorem ok (b : β) : EndsIff (.ok b) True := iff_true_intro ⟨b, rfl⟩

/-- What follows a step has to end only where that step does. -/
theorem bind {f : β → Except Fault γ} (h : EndsIff x P) (hf : P → ∀ b, EndsIff (f b) Q) :
    EndsIff (x >>= f) (P ∧ Q) := by
  constructor
  · rintro ⟨c, hc⟩
    obtain ⟨b, hb, hc⟩ := bind_eq_ok.1 hc
    have hP := h.1 ⟨b, hb⟩
    exact ⟨hP, (hf hP b).1 ⟨c, hc⟩⟩
  · rintro ⟨hP, hQ⟩
    obtain ⟨b, hb⟩ := h.2 hP
    obtain ⟨c, hc⟩ := (hf hP b).2 hQ
    exact ⟨c, bind_eq_ok.2 ⟨b, hb, hc⟩⟩

theorem text (a : α) [Number α] : EndsIff (Number.text a) (Number.Legible a) := by
  by_cases ha : Number.Legible a
  · exact iff_of_true (Number.text_of_legible ha) ha
  · exact iff_of_false (by simp [Number.text_of_not_legible ha]) ha

theorem then_ok {f : β → γ} (h : EndsIff x P) : EndsIff (x >>= fun b => .ok (f b)) P :=
  (h.bind fun _ b => ok (f b)).congr (and_iff_left trivial)

/-- A traversal ends just if it ends at every entry. -/
theorem mapM {f : β → Except Fault γ} {P : β → Prop} {bs : List β}
    (h : ∀ b ∈ bs, EndsIff (f b) (P b)) : EndsIff (bs.mapM f) (∀ b ∈ bs, P b) := by
  induction bs with
  | nil => exact (ok []).congr (by simp)
  | cons first rest ih =>
    rw [List.mapM_cons]
    have hrest := ih fun b hb => h b (List.mem_cons_of_mem _ hb)
    refine ((h first List.mem_cons_self).bind fun _ c => hrest.then_ok).congr ?_
    exact List.forall_mem_cons.symm

end EndsIff

variable [Number α]

/-! ## What can be checked -/

namespace Effect

/-- The weights of a loot table have a sum. -/
def HasTotal : Effect α → Prop
  | .lootTable table => ∃ total, Number.sum (table.map Weighted.weight) = .ok total
  | _ => True

/-- The position of a lock can be written, if its node has no choice there. -/
def LockLegible (s : Story α) : Effect α → Prop
  | .lockChoice node index | .unlockChoice node index =>
    ∀ target, s.node? node = some target →
      (0 ≤ index ∧ index < target.choices.length) ∨ Number.Legible (Number.whole index : α)
  | _ => True

/-- All effects of a list can be checked, at any depth. -/
def Checkable (s : Story α) (effects : List (Effect α)) : Prop :=
  ∀ e, Occurs e effects → e.HasTotal ∧ e.LockLegible s

end Effect

/-- Bounds in the wrong order can be written, and so can a start outside the bounds. -/
structure Stat.Checkable (t : Stat α) : Prop where
  bounds : Number.less t.max t.min = true → Number.Legible t.min ∧ Number.Legible t.max
  start : Number.less t.max t.min = false →
    (Number.atMost t.min t.start && Number.atMost t.start t.max) = false →
      Number.Legible t.start ∧ Number.Legible t.min ∧ Number.Legible t.max

omit [Number α] in
/-- The language takes the pattern of a task, or says what is wrong with it. -/
def Task.Checkable (language : PatternLanguage) (task : Task α) : Prop :=
  ∀ pattern flags, task = .regex pattern flags → ∀ fault, language pattern flags ≠ .error (.fault fault)

structure Puzzle.Checkable (language : PatternLanguage) (s : Story α) (p : Puzzle α) : Prop where
  outcome : ∀ success o, p.outcome? success = some o → Effect.Checkable s o.effects
  pattern : p.task.Checkable language

/-- A variant that leaves the id of a puzzle alone makes a puzzle of it. -/
structure Puzzle.Makes (p : Puzzle α) (v : Variant α) (q : Puzzle α) : Prop where
  id : ∀ d, v.item.get? "id" = some d → d = .text p.id
  reads : p.withVariant v = .ok q

structure Node.Checkable (language : PatternLanguage) (s : Story α) (n : Node α) : Prop where
  entry : Effect.Checkable s n.onEnterEffects
  choice : ∀ c ∈ n.choices, Effect.Checkable s c.effects
  puzzle : ∀ p, n.puzzle = some p → p.Checkable language s
  variant : ∀ p, n.puzzle = some p → ∀ v ∈ p.variants, ∀ q, p.Makes v q → q.Checkable language s

/-- A story whose check meets no fault. -/
structure Story.Checkable (language : PatternLanguage) (s : Story α) : Prop where
  stat : ∀ t ∈ s.stats, t.Checkable
  node : ∀ n ∈ s.nodes, n.Checkable language s

/-! ## Effects -/

variable {s : Story α} {place : Place}

namespace Effect

theorem lock_ends (op node : String) (index : Int) : EndsIff (lockFlaws s place op node index)
    (∀ target, s.node? node = some target →
      (0 ≤ index ∧ index < target.choices.length) ∨ Number.Legible (Number.whole index : α)) := by
  unfold lockFlaws
  cases hnode : s.node? node with
  | none => exact (EndsIff.ok _).congr (by simp)
  | some target =>
    simp only [Option.some.injEq, forall_eq']
    split
    · next hrange =>
      simp only [Bool.and_eq_true, decide_eq_true_eq] at hrange
      exact (EndsIff.ok _).congr (iff_of_true trivial (.inl hrange))
    · next hrange =>
      simp only [Bool.and_eq_true, decide_eq_true_eq] at hrange
      exact (EndsIff.text (Number.whole index)).then_ok.congr (or_iff_right hrange).symm

theorem flaws_end (e : Effect α) : EndsIff (e.flaws s place) (e.HasTotal ∧ e.LockLegible s) := by
  cases e with
  | lootTable table =>
    rw [flaws, HasTotal]
    refine EndsIff.congr ?_ (and_iff_left trivial).symm
    split
    · next hempty =>
      -- nothing is added up here, and no weights have the sum zero
      have htable : table = [] := List.isEmpty_iff.1 hempty
      subst htable
      exact (EndsIff.ok _).congr (iff_of_true trivial ⟨Number.whole 0, rfl⟩)
    · exact EndsIff.then_ok Iff.rfl
  | lockChoice node index | unlockChoice node index =>
    rw [flaws]
    exact (lock_ends _ node index).congr (and_iff_right trivial).symm
  | _ => exact (EndsIff.ok _).congr (and_iff_left trivial).symm

theorem flawsOf_end (effects : List (Effect α)) :
    EndsIff (flawsOf s place effects) (Checkable s effects) := by
  unfold flawsOf
  refine (EndsIff.mapM fun e _ => flaws_end e).then_ok.congr ?_
  unfold Checkable
  simp only [mem_walk_iff_occurs]

end Effect

/-! ## Puzzles -/

namespace Puzzle

variable {language : PatternLanguage} {p : Puzzle α}

theorem outcome_ends (success : Bool) (o : Outcome α) :
    EndsIff (outcomeFlaws s place success o) (Effect.Checkable s o.effects) :=
  (Effect.flawsOf_end o.effects).then_ok

omit [Number α] in
theorem pattern_ends (task : Task α) :
    EndsIff (patternFlaws language place task) (task.Checkable language) := by
  cases task with
  | regex pattern flags =>
    unfold patternFlaws
    dsimp only
    split
    · next test htest =>
      refine (EndsIff.ok _).congr (iff_of_true trivial ?_)
      rintro _ _ ⟨⟩ fault hfault
      cases htest.symm.trans hfault
    · next message hinvalid =>
      refine (EndsIff.ok _).congr (iff_of_true trivial ?_)
      rintro _ _ ⟨⟩ fault hfault
      cases hinvalid.symm.trans hfault
    · next fault hfault => exact iff_of_false nofun fun h => h pattern flags rfl fault hfault
  | _ => exact (EndsIff.ok _).congr (iff_of_true trivial nofun)

/-- What can be checked of a puzzle in the fields that are looked at. -/
structure PartlyCheckable (language : PatternLanguage) (s : Story α) (considered : String → Bool)
    (p : Puzzle α) : Prop where
  outcome : ∀ success o, considered (outcomeName success) = true → p.outcome? success = some o →
    Effect.Checkable s o.effects
  pattern : (considered "kind" || considered "pattern" || considered "flags") = true →
    p.task.Checkable language

theorem own_ends (considered : String → Bool) (p : Puzzle α) :
    EndsIff (p.ownFlaws language s place considered) (p.PartlyCheckable language s considered) := by
  have houtcomes : EndsIff ((p.outcomes.filter fun o => considered (outcomeName o.1)).mapM fun o =>
      outcomeFlaws s place o.1 o.2) (∀ success o, considered (outcomeName success) = true →
        p.outcome? success = some o → Effect.Checkable s o.effects) := by
    refine (EndsIff.mapM fun o _ => outcome_ends o.1 o.2).congr ?_
    constructor
    · intro h success o hname ho
      exact h (success, o) (List.mem_filter.2 ⟨mem_outcomes_iff.2 ho, hname⟩)
    · intro h o ho
      obtain ⟨ho, hname⟩ := List.mem_filter.1 ho
      exact h o.1 o.2 hname (mem_outcomes_iff.1 ho)
  unfold ownFlaws
  refine (houtcomes.bind (Q := (considered "kind" || considered "pattern" || considered "flags") = true →
    p.task.Checkable language) fun _ found => ?_).congr ?_
  · dsimp only
    split
    · next hname => exact (pattern_ends p.task).then_ok.congr (by simp [hname])
    · next hname => exact (EndsIff.ok _).congr (by simp [hname])
  · exact ⟨fun ⟨houtcome, hpattern⟩ => ⟨houtcome, hpattern⟩, fun h => ⟨h.outcome, h.pattern⟩⟩

/-- Of a puzzle that a variant makes it is enough to look at the fields that the variant names. -/
theorem partly_iff [FaithfulNumber α] (hp : p.Checkable language s) {v : Variant α} {q : Puzzle α}
    (hq : p.withVariant v = .ok q) :
    q.PartlyCheckable language s v.item.has ↔ q.Checkable language s := by
  refine ⟨fun h => ⟨fun success o ho => ?_, ?_⟩, fun h => ⟨fun success o _ => h.outcome success o,
    fun _ => h.pattern⟩⟩
  · cases hname : v.item.has (outcomeName success) with
    | true => exact h.outcome success o hname ho
    | false => exact hp.outcome success o (outcome?_withVariant hq hname ▸ ho)
  · cases hname : v.item.has "kind" || v.item.has "pattern" || v.item.has "flags" with
    | true => exact h.pattern hname
    | false =>
      rw [Bool.or_eq_false_iff, Bool.or_eq_false_iff] at hname
      intro pattern flags htask
      exact hp.pattern pattern flags (regex_withVariant hq hname.1.1 hname.1.2 hname.2 htask)

theorem variant_ends [FaithfulNumber α] (hp : p.Checkable language s) (v : Variant α) :
    EndsIff (p.variantFlaws language s place v) (∀ q, p.Makes v q → q.Checkable language s) := by
  unfold variantFlaws checkVariant
  cases hkeeps : p.keepsId v with
  | false =>
    refine (EndsIff.ok _).congr (iff_of_true trivial fun q hq => ?_)
    rw [keepsId_iff.2 hq.id] at hkeeps
    cases hkeeps
  | true =>
    have hid := keepsId_iff.1 hkeeps
    cases hwith : p.withVariant v with
    | bad problems =>
      refine (EndsIff.ok _).congr (iff_of_true trivial fun q hq => ?_)
      cases hwith.symm.trans hq.reads
    | ok q =>
      -- only the fields of the variant are looked at, the others have been looked at in the puzzle
      refine ((own_ends v.item.has q).congr (partly_iff hp hwith)).congr ?_
      constructor
      · intro h q' hq'
        cases hwith.symm.trans hq'.reads
        exact h
      · exact fun h => h q ⟨hid, hwith⟩

theorem variants_end {P : Variant α → Prop} {variants : List (Variant α)}
    (h : ∀ v ∈ variants, ∀ place, EndsIff (p.variantFlaws language s place v) (P v)) :
    ∀ index, EndsIff (p.variantsFlaws language s place index variants) (∀ v ∈ variants, P v) := by
  induction variants with
  | nil => exact fun index => (EndsIff.ok _).congr (by simp)
  | cons first rest ih =>
    intro index
    have hrest := ih (fun v hv => h v (List.mem_cons_of_mem _ hv)) (index + 1)
    refine ((h first List.mem_cons_self _).bind fun _ flaws => hrest.then_ok).congr ?_
    exact List.forall_mem_cons.symm

theorem flaws_end [FaithfulNumber α] (p : Puzzle α) : EndsIff (p.flaws language s)
    (p.Checkable language s ∧ ∀ v ∈ p.variants, ∀ q, p.Makes v q → q.Checkable language s) := by
  have hown : EndsIff (p.ownFlaws language s (.puzzle p.id) fun _ => true) (p.Checkable language s) :=
    (own_ends _ p).congr ⟨fun h => ⟨fun success o => h.outcome success o rfl, h.pattern rfl⟩,
      fun h => ⟨fun success o _ => h.outcome success o, fun _ => h.pattern⟩⟩
  unfold flaws
  exact hown.bind fun hp own => (variants_end (fun v _ place => variant_ends hp v) 0).then_ok

end Puzzle

/-! ## Nodes -/

namespace Node

variable {language : PatternLanguage} {n : Node α}

theorem choices_end (choices : List (Choice α)) : ∀ index,
    EndsIff (n.choicesFlaws s index choices) (∀ c ∈ choices, Effect.Checkable s c.effects) := by
  induction choices with
  | nil => exact fun index => (EndsIff.ok _).congr (by simp)
  | cons first rest ih =>
    intro index
    have hfirst : EndsIff (n.choiceFlaws s index first) (Effect.Checkable s first.effects) :=
      (Effect.flawsOf_end first.effects).then_ok
    exact (hfirst.bind fun _ flaws => (ih (index + 1)).then_ok).congr (by simp)

theorem flaws_end [FaithfulNumber α] (n : Node α) :
    EndsIff (n.flaws language s) (n.Checkable language s) := by
  unfold flaws
  refine ((Effect.flawsOf_end n.onEnterEffects).bind fun _ entry =>
    (choices_end n.choices 0).bind (Q := ∀ p, n.puzzle = some p → p.Checkable language s ∧
      ∀ v ∈ p.variants, ∀ q, p.Makes v q → q.Checkable language s) fun _ choices => ?_).congr ?_
  · dsimp only
    split
    · next p hp => exact (Puzzle.flaws_end p).then_ok.congr (by simp [hp])
    · next hp => exact (EndsIff.ok _).congr (by simp [hp])
  · constructor
    · rintro ⟨hentry, hchoice, hpuzzle⟩
      exact ⟨hentry, hchoice, fun p hp => (hpuzzle p hp).1, fun p hp => (hpuzzle p hp).2⟩
    · intro h
      exact ⟨h.entry, h.choice, fun p hp => ⟨h.puzzle p hp, h.variant p hp⟩⟩

end Node

/-! ## Stories -/

namespace Story

variable {language : PatternLanguage}

theorem nodes_end [FaithfulNumber α] (nodes : List (Node α)) :
    EndsIff (s.nodeFlaws language nodes) (∀ n ∈ nodes, n.Checkable language s) := by
  induction nodes with
  | nil => exact (EndsIff.ok _).congr (by simp)
  | cons first rest ih =>
    refine ((Node.flaws_end first).bind fun _ flaws => ih.then_ok).congr ?_
    exact List.forall_mem_cons.symm

theorem stat_ends (t : Stat α) : EndsIff (statFlaws t) t.Checkable := by
  unfold statFlaws
  split
  · next hless =>
    refine ((EndsIff.text t.min).bind fun _ low => (EndsIff.text t.max).then_ok).congr ?_
    exact ⟨fun h => ⟨fun _ => h, by simp [hless]⟩, fun h => h.bounds hless⟩
  · next hless =>
    rw [Bool.not_eq_true] at hless
    split
    · next hinside => exact (EndsIff.ok _).congr (iff_of_true trivial ⟨by simp [hless], by simp [hinside]⟩)
    · next houtside =>
      rw [Bool.not_eq_true] at houtside
      refine ((EndsIff.text t.start).bind fun _ start => (EndsIff.text t.min).bind fun _ low =>
        (EndsIff.text t.max).then_ok).congr ?_
      exact ⟨fun h => ⟨by simp [hless], fun _ _ => h⟩, fun h => h.start hless houtside⟩

/-- The check of a story comes to an end just if the story can be checked. -/
theorem check_ends [FaithfulNumber α] (s : Story α) :
    (∃ verdict, s.check language = .ok verdict) ↔ s.Checkable language := by
  have hflaws : EndsIff (s.flaws language) (s.Checkable language) :=
    ((EndsIff.mapM fun t _ => stat_ends t).bind fun _ stats => (nodes_end s.nodes).then_ok).congr
      ⟨fun ⟨hstat, hnode⟩ => ⟨hstat, hnode⟩, fun h => ⟨h.stat, h.node⟩⟩
  exact hflaws.then_ok

/-- A story that can be checked is found to have no errors just if it is well-formed.  The check of any
other story stops at an error with a number that is too long to be written, and the story is not
well-formed. -/
theorem check_iff_wellFormed [FaithfulNumber α] {exact : α → Prop} (arithmetic : Number.Exact exact)
    (hfixed : ∀ pattern flags fault, language pattern flags ≠ .error (.fault fault))
    (hs : s.ExactAmounts exact) :
    (s.Checkable language ∧ ∃ verdict, s.check language = .ok verdict ∧
        (verdict.valid = true ↔ s.WellFormed language)) ∨
      (¬ s.Checkable language ∧ s.check language = .error .unwritable ∧ ¬ s.WellFormed language) := by
  rw [← check_ends]
  obtain ⟨verdict, hverdict, hiff⟩ | ⟨hfault, hill⟩ := check_decides arithmetic hfixed hs
  · exact .inl ⟨⟨verdict, hverdict⟩, verdict, hverdict, hiff⟩
  · exact .inr ⟨by simp [hfault], hfault, hill⟩

theorem riddle_wellFormed :
    ∃ verdict, riddle.check Pattern.language.settled = .ok verdict ∧ verdict.valid = true ∧
      riddle.WellFormed Pattern.language.settled := by
  have hvalid : riddle.Valid Pattern.language.settled := by decide +kernel
  obtain ⟨verdict, hverdict, hvalid⟩ := hvalid
  obtain ⟨-, _, hverdict', hiff⟩ | ⟨-, hfault, -⟩ := check_iff_wellFormed Amount.exact
    (PatternLanguage.settled_ne_fault Pattern.language) riddle_exactAmounts
  · cases hverdict.symm.trans hverdict'
    exact ⟨verdict, hverdict, hvalid, hiff.1 hvalid⟩
  · cases hverdict.symm.trans hfault

end Story

end StoryRules
