import StoryRules.Proofs.Puzzle.Variant
import StoryRules.Proofs.Validation.Meets

/-!
# References that resolve

A check passes if it finds no error; warnings are let through.  What passes refers only to what is
there: effects at any depth, outcomes, patterns, and the puzzles that variants make, though a variant
is checked only in the fields that it names.

    p.Resolves language s → Passes (p.variantFlaws language s place v) →
      ∃ q, p.withVariant v = .ok q ∧ q.id = p.id ∧ q.Resolves language s      (Puzzle.variant_resolves)
-/

namespace StoryRules

variable {α : Type}

/-! ## Passing checks -/

/-- A check finds nothing but warnings. -/
def Passes (check : Except Fault (List Flaw)) : Prop := Meets (fun f => f.isWarning = true) check

namespace Passes

variable {flaw : Flaw}

theorem present {present : Bool} (h : Passes (.ok (flawUnless present flaw)))
    (herror : flaw.isWarning = false) : present = true :=
  Meets.present h (by simp [herror])

theorem bind {β : Type} {x : Except Fault β} {f : β → Except Fault (List Flaw)}
    (h : Passes (x >>= f)) : ∃ b, x = .ok b ∧ Passes (f b) := Meets.bind h

/-- An error does not pass. -/
theorem not_single (h : Passes (.ok [flaw])) (herror : flaw.isWarning = false) : False := by
  have hwarning := h.of_ok flaw List.mem_cons_self
  rw [herror] at hwarning
  cases hwarning

end Passes

variable [Number α]

/-! ## Effects -/

namespace Effect

/-- What an effect itself names is there. -/
def Resolves (s : Story α) : Effect α → Prop
  | .addItem item _ | .removeItem item _ => s.hasItem item = true
  | .addStat stat _ => s.hasStat stat = true
  | .goto target => s.hasNode target = true
  | .lockChoice node index | .unlockChoice node index =>
    ∃ n, s.node? node = some n ∧ 0 ≤ index ∧ index < n.choices.length
  | _ => True

variable {s : Story α} {place : Place}

theorem lock_resolves {op node : String} {index : Int}
    (h : Passes (lockFlaws s place op node index)) :
    ∃ n, s.node? node = some n ∧ 0 ≤ index ∧ index < n.choices.length := by
  unfold lockFlaws at h
  cases hn : s.node? node with
  | none =>
    rw [hn] at h
    exact (h.not_single rfl).elim
  | some n =>
    rw [hn] at h
    dsimp only at h
    split at h
    · next hrange =>
      rw [Bool.and_eq_true, decide_eq_true_eq, decide_eq_true_eq] at hrange
      exact ⟨n, rfl, hrange⟩
    · obtain ⟨position, -, h⟩ := Passes.bind h
      exact (h.not_single rfl).elim

theorem resolves {e : Effect α} (h : Passes (e.flaws s place)) : e.Resolves s := by
  cases e with
  | addItem item quantity => exact h.present rfl
  | removeItem item quantity => exact h.present rfl
  | addStat stat value => exact h.present rfl
  | goto target => exact h.present rfl
  | lockChoice node index => exact lock_resolves h
  | unlockChoice node index => exact lock_resolves h
  | _ => trivial

/-- All that a list of effects names is there, at any depth. -/
def AllResolve (s : Story α) (effects : List (Effect α)) : Prop := ∀ e ∈ walk effects, e.Resolves s

theorem all_resolve (place : Place) {effects : List (Effect α)}
    (h : Passes (flawsOf s place effects)) : AllResolve s effects :=
  fun e he => resolves (flawsOf_meet h e he)

end Effect

/-! ## Outcomes and patterns -/

/-- All that an outcome leads to is there. -/
structure Outcome.Resolves (s : Story α) (o : Outcome α) : Prop where
  next : ∀ target, o.next = some target → s.hasNode target = true
  effects : Effect.AllResolve s o.effects

/-- The pattern of a task, if it has one, is one of the language. -/
def Task.Compiles (language : PatternLanguage) (task : Task α) : Prop :=
  ∀ pattern flags, task = .regex pattern flags → ∃ test, language pattern flags = .ok test

namespace Puzzle

variable {language : PatternLanguage} {s : Story α} {place : Place} {p : Puzzle α}

/-- All that a puzzle's outcomes lead to is there, and its pattern is one of the language. -/
structure Resolves (language : PatternLanguage) (s : Story α) (p : Puzzle α) : Prop where
  outcome : ∀ success o, p.outcome? success = some o → o.Resolves s
  pattern : p.task.Compiles language

theorem outcome_resolves {success : Bool} {o : Outcome α}
    (h : Passes (outcomeFlaws s place success o)) : o.Resolves s := by
  obtain ⟨hnext, heffects⟩ := outcome_meets h
  exact ⟨fun target htarget => Passes.present (hnext target htarget) rfl,
    Effect.all_resolve (.outcomeEffects place success) heffects⟩

omit [Number α] in
theorem task_compiles (place : Place) {task : Task α}
    (h : Passes (patternFlaws language place task)) :
    task.Compiles language := by
  rintro pattern flags rfl
  unfold patternFlaws at h
  dsimp only at h
  split at h
  · next test htest => exact ⟨test, htest⟩
  · exact (h.not_single rfl).elim
  · obtain ⟨_, ⟨⟩, -⟩ := h

/-- The fields that are looked at resolve. -/
theorem own_resolves {considered : String → Bool}
    (h : Passes (p.ownFlaws language s place considered)) :
    (∀ success o, considered (outcomeName success) = true → p.outcome? success = some o →
      o.Resolves s) ∧
    ((considered "kind" || considered "pattern" || considered "flags") = true →
      p.task.Compiles language) := by
  obtain ⟨houtcome, hpattern⟩ := own_meet h
  exact ⟨fun success o hname ho => outcome_resolves (houtcome success o hname ho),
    fun hname => task_compiles place (hpattern hname)⟩

/-! ## Variants -/

omit [Number α] in
theorem keepsId_eq_true {v : Variant α} (h : p.keepsId v = true) :
    ∀ d, v.item.get? "id" = some d → d = .text p.id := by
  intro d hd
  unfold keepsId at h
  rw [hd] at h
  cases d with
  | text id => rw [of_decide_eq_true h]
  | _ => cases h

theorem checkVariant_eq_puzzle {q : Puzzle α} {v : Variant α}
    (h : p.checkVariant v = .puzzle q) :
    p.withVariant v = .ok q ∧ ∀ d, v.item.get? "id" = some d → d = .text p.id := by
  unfold checkVariant at h
  cases hkeeps : p.keepsId v with
  | false =>
    rw [hkeeps] at h
    cases h
  | true =>
    rw [hkeeps, if_neg (by decide)] at h
    split at h
    · next q' hq' =>
      cases h
      exact ⟨hq', keepsId_eq_true hkeeps⟩
    · cases h

/-- A variant that passes makes a puzzle with the same id, and one that resolves: what it does not
name is the puzzle's own. -/
theorem variant_resolves [FaithfulNumber α] (hp : p.Resolves language s) {v : Variant α}
    (hkeys : v.item.keys.Nodup) (h : Passes (p.variantFlaws language s place v)) :
    ∃ q, p.withVariant v = .ok q ∧ q.id = p.id ∧ q.Resolves language s := by
  unfold variantFlaws at h
  split at h
  · exact (h.not_single rfl).elim
  · exact (h.not_single rfl).elim
  · next q hq =>
    obtain ⟨hwith, hid⟩ := checkVariant_eq_puzzle hq
    obtain ⟨houtcome, hpattern⟩ := own_resolves h
    refine ⟨q, hwith, id_withVariant hwith hkeys hid, fun success o ho => ?_, ?_⟩
    · cases hname : v.item.has (outcomeName success) with
      | true => exact houtcome success o hname ho
      | false => exact hp.outcome success o (outcome?_withVariant hwith hname ▸ ho)
    · cases hname : v.item.has "kind" || v.item.has "pattern" || v.item.has "flags" with
      | true => exact hpattern hname
      | false =>
        rw [Bool.or_eq_false_iff, Bool.or_eq_false_iff] at hname
        intro pattern flags htask
        exact hp.pattern pattern flags
          (regex_withVariant hwith hname.1.1 hname.1.2 hname.2 htask)

end Puzzle

end StoryRules
