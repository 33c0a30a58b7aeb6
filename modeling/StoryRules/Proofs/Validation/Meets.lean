import StoryRules.Proofs.Effect.Walk
import StoryRules.Validation

/-!
# What a check finds in the parts of a story

If everything that the check of a story finds meets a condition, so does everything that it finds in a
part: in an effect at any depth, in an outcome, in the hints and the variants of a puzzle, in a choice.

    Meets P (s.flaws language) → ∀ n ∈ s.nodes, Meets P (n.flaws language s)      (Story.nodes_meet)
-/

namespace StoryRules

variable {α : Type}

/-- A check comes to an end, and all that it finds meets `P`. -/
def Meets (P : Flaw → Prop) (check : Except Fault (List Flaw)) : Prop :=
  ∃ flaws, check = .ok flaws ∧ ∀ f ∈ flaws, P f

namespace Meets

variable {P : Flaw → Prop} {flaws more : List Flaw} {check : Except Fault (List Flaw)}

theorem of_ok (h : Meets P (.ok flaws)) : ∀ f ∈ flaws, P f := by
  obtain ⟨_, ⟨⟩, h⟩ := h
  exact h

theorem left (h : Meets P (.ok (flaws ++ more))) : Meets P (.ok flaws) :=
  ⟨flaws, rfl, fun f hf => h.of_ok f (List.mem_append_left _ hf)⟩

theorem right (h : Meets P (.ok (flaws ++ more))) : Meets P (.ok more) :=
  ⟨more, rfl, fun f hf => h.of_ok f (List.mem_append_right _ hf)⟩

/-- A check that goes on after another one found something. -/
theorem bind {β : Type} {x : Except Fault β} {f : β → Except Fault (List Flaw)}
    (h : Meets P (x >>= f)) : ∃ b, x = .ok b ∧ Meets P (f b) := by
  cases x with
  | ok b => exact ⟨b, rfl, h⟩
  | error fault =>
    obtain ⟨_, ⟨⟩, -⟩ := h

theorem both {x y : Except Fault (List Flaw)}
    (h : Meets P (do
      let flaws ← x
      let more ← y
      .ok (flaws ++ more))) : Meets P x ∧ Meets P y := by
  obtain ⟨flaws, hx, hrest⟩ := bind h
  obtain ⟨more, hy, hboth⟩ := bind hrest
  rw [hx, hy]
  exact ⟨hboth.left, hboth.right⟩

theorem mapM {β : Type} {f : β → Except Fault (List Flaw)} {bs : List β} :
    ∀ {found : List (List Flaw)}, bs.mapM f = .ok found → Meets P (.ok found.flatten) →
      ∀ b ∈ bs, Meets P (f b) := by
  induction bs with
  | nil => simp
  | cons first rest ih =>
    intro found hfound h
    rw [List.mapM_cons] at hfound
    cases hfirst : f first with
    | error fault =>
      rw [hfirst] at hfound
      cases hfound
    | ok flaws =>
      cases hrest : rest.mapM f with
      | error fault =>
        rw [hfirst, hrest] at hfound
        cases hfound
      | ok later =>
        rw [hfirst, hrest] at hfound
        cases hfound
        rw [List.flatten_cons] at h
        intro b hb
        rcases List.mem_cons.1 hb with rfl | hb
        · rw [hfirst]
          exact h.left
        · exact ih hrest h.right b hb

theorem flatMap {β : Type} {f : β → List Flaw} {bs : List β}
    (h : Meets P (.ok (bs.flatMap f))) : ∀ b ∈ bs, Meets P (.ok (f b)) :=
  fun b hb => ⟨_, rfl, fun flaw hflaw => h.of_ok flaw (List.mem_flatMap.2 ⟨b, hb, hflaw⟩)⟩

/-- What would be a flaw against the condition is there. -/
theorem present {present : Bool} {flaw : Flaw} (h : Meets P (.ok (flawUnless present flaw)))
    (hflaw : ¬ P flaw) : present = true := by
  cases present with
  | true => rfl
  | false => exact absurd (h.of_ok flaw (by simp [flawUnless])) hflaw

end Meets

variable [Number α] {P : Flaw → Prop} {language : PatternLanguage} {s : Story α} {place : Place}

theorem Effect.flawsOf_meet {effects : List (Effect α)} (h : Meets P (flawsOf s place effects)) :
    ∀ e ∈ walk effects, Meets P (e.flaws s place) := by
  obtain ⟨found, hfound, h⟩ := Meets.bind h
  exact Meets.mapM hfound h

/-! ## Puzzles -/

namespace Puzzle

variable {p : Puzzle α}

theorem outcome_meets {success : Bool} {o : Outcome α} (h : Meets P (outcomeFlaws s place success o)) :
    (∀ id, o.next = some id →
      Meets P (.ok (flawUnless (s.hasNode id) (.unknownNode (.outcome place success) id)))) ∧
    Meets P (Effect.flawsOf s (.outcomeEffects place success) o.effects) := by
  unfold outcomeFlaws at h
  obtain ⟨effects, heffects, h⟩ := Meets.bind h
  refine ⟨fun id hid => ?_, ?_⟩
  · exact h.left.flatMap id (by simp [hid])
  · rw [heffects]
    exact h.right

omit [Number α] in
theorem mem_outcomes {success : Bool} {o : Outcome α} :
    (success, o) ∈ p.outcomes ↔ p.outcome? success = some o := by
  unfold outcomes outcome?
  cases success <;> simp

/-- The fields that are looked at. -/
theorem own_meet {considered : String → Bool} (h : Meets P (p.ownFlaws language s place considered)) :
    (∀ success o, considered (outcomeName success) = true → p.outcome? success = some o →
      Meets P (outcomeFlaws s place success o)) ∧
    ((considered "kind" || considered "pattern" || considered "flags") = true →
      Meets P (patternFlaws language place p.task)) := by
  unfold ownFlaws at h
  obtain ⟨found, hfound, h⟩ := Meets.bind h
  have houtcome : ∀ {pattern : List Flaw}, Meets P (.ok ((if considered "media" = true then
      mediaFlaws s place p.media else []) ++ found.flatten ++ pattern)) → ∀ success o,
      considered (outcomeName success) = true → p.outcome? success = some o →
      Meets P (outcomeFlaws s place success o) := by
    intro pattern h success o hname ho
    have hmem : (success, o) ∈ p.outcomes.filter fun o => considered (outcomeName o.1) :=
      List.mem_filter.2 ⟨mem_outcomes.2 ho, hname⟩
    exact Meets.mapM hfound h.left.right _ hmem
  dsimp only at h
  split at h
  · obtain ⟨pattern, hpattern, h⟩ := Meets.bind h
    refine ⟨houtcome h, fun _ => ?_⟩
    rw [hpattern]
    exact h.right
  · next hname =>
    exact ⟨houtcome h, fun h => absurd h hname⟩

theorem variants_meet {variants : List (Variant α)} :
    ∀ index, Meets P (p.variantsFlaws language s place index variants) →
      ∀ v ∈ variants, ∃ index, Meets P (p.variantFlaws language s (.variant place index) v) := by
  induction variants with
  | nil => simp
  | cons first rest ih =>
    intro index h
    unfold variantsFlaws at h
    obtain ⟨hfirst, hrest⟩ := Meets.both h
    intro v hv
    rcases List.mem_cons.1 hv with rfl | hv
    · exact ⟨index, hfirst⟩
    · exact ih (index + 1) hrest v hv

theorem flaws_meet (h : Meets P (p.flaws language s)) :
    Meets P (p.ownFlaws language s (.puzzle p.id) fun _ => true) ∧
    Meets P (.ok (p.hintFlaws s (.puzzle p.id))) ∧
    ∀ v ∈ p.variants, ∃ index,
      Meets P (p.variantFlaws language s (.variant (.puzzle p.id) index) v) := by
  unfold flaws at h
  obtain ⟨own, hown, h⟩ := Meets.bind h
  obtain ⟨variants, hvariants, h⟩ := Meets.bind h
  refine ⟨?_, h.left.right, variants_meet 0 ?_⟩
  · rw [hown]
    exact h.left.left
  · rw [hvariants]
    exact h.right

end Puzzle

/-! ## Nodes -/

namespace Node

variable {n : Node α}

theorem choice_meets {index : Nat} {c : Choice α} (h : Meets P (n.choiceFlaws s index c)) :
    Meets P (.ok (flawUnless (s.hasNode c.next) (.unknownNode (.choice n.id index) c.next))) ∧
    Meets P (Effect.flawsOf s (.choiceEffects n.id index) c.effects) ∧
    ∀ condition ∈ Requirement.conditions? c.requirement,
      Meets P (.ok (condition.flaws s (.choice n.id index))) := by
  unfold choiceFlaws at h
  obtain ⟨effects, heffects, h⟩ := Meets.bind h
  refine ⟨h.left.left.left, ?_, h.right.flatMap⟩
  rw [heffects]
  exact h.left.right

theorem choices_meet {choices : List (Choice α)} :
    ∀ index, Meets P (n.choicesFlaws s index choices) →
      ∀ c ∈ choices, ∃ index, Meets P (n.choiceFlaws s index c) := by
  induction choices with
  | nil => simp
  | cons first rest ih =>
    intro index h
    unfold choicesFlaws at h
    obtain ⟨hfirst, hrest⟩ := Meets.both h
    intro c hc
    rcases List.mem_cons.1 hc with rfl | hc
    · exact ⟨index, hfirst⟩
    · exact ih (index + 1) hrest c hc

theorem flaws_meet (h : Meets P (n.flaws language s)) :
    Meets P (Effect.flawsOf s (.onEnter n.id) n.onEnterEffects) ∧
    (∀ c ∈ n.choices, ∃ index, Meets P (n.choiceFlaws s index c)) ∧
    ∀ p, n.puzzle = some p → Meets P (p.flaws language s) := by
  unfold flaws at h
  obtain ⟨entry, hentry, h⟩ := Meets.bind h
  obtain ⟨choices, hchoices, h⟩ := Meets.bind h
  have hparts : ∀ {puzzle : List Flaw}, Meets P (.ok (mediaFlaws s (.node n.id) n.media ++ entry ++
      flawUnless (!n.isEnding || n.choices.isEmpty) (Flaw.endingWithChoices n.id) ++ choices ++
      puzzle)) → Meets P (Effect.flawsOf s (.onEnter n.id) n.onEnterEffects) ∧
      ∀ c ∈ n.choices, ∃ index, Meets P (n.choiceFlaws s index c) := by
    intro puzzle h
    refine ⟨?_, choices_meet 0 ?_⟩
    · rw [hentry]
      exact h.left.left.left.right
    · rw [hchoices]
      exact h.left.right
  dsimp only at h
  split at h
  · next p hp =>
    obtain ⟨puzzle, hpuzzle, h⟩ := Meets.bind h
    refine ⟨(hparts h).1, (hparts h).2, fun q hq => ?_⟩
    cases hp.symm.trans hq
    rw [hpuzzle]
    exact h.right
  · next hp =>
    refine ⟨(hparts h).1, (hparts h).2, fun p hp' => ?_⟩
    cases hp.symm.trans hp'

end Node

/-! ## Stories -/

namespace Story

theorem nodeFlaws_meet {nodes : List (Node α)} (h : Meets P (s.nodeFlaws language nodes)) :
    ∀ n ∈ nodes, Meets P (n.flaws language s) := by
  induction nodes with
  | nil => simp
  | cons first rest ih =>
    unfold nodeFlaws at h
    obtain ⟨hfirst, hrest⟩ := Meets.both h
    intro n hn
    rcases List.mem_cons.1 hn with rfl | hn
    · exact hfirst
    · exact ih hrest n hn

theorem nodes_meet (h : Meets P (s.flaws language)) : ∀ n ∈ s.nodes, Meets P (n.flaws language s) := by
  unfold flaws at h
  obtain ⟨stats, -, h⟩ := Meets.bind h
  obtain ⟨nodes, hnodes, h⟩ := Meets.bind h
  refine nodeFlaws_meet ?_
  rw [hnodes]
  exact h.left.left.right

end Story

end StoryRules
