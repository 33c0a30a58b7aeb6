import StoryRules.Proofs.Step
import StoryRules.Proofs.Validation.Redirects
import StoryRules.Proofs.Validation.Sound

/-!
# Warnings of circles

The check of a story warns of redirects that go in a circle just if there are some: no other warning has
the words of that one, and no other part of the check gives it.

    s.check language = .ok verdict → (verdict.WarnsOfCycle ↔ Redirects.cycles s.redirects ≠ [])
-/

namespace StoryRules

variable {α : Type}

/-! ## What checks find -/

/-- A check that comes to an end finds only flaws with `P`. -/
def Finds (P : Flaw → Prop) (check : Except Fault (List Flaw)) : Prop :=
  ∀ flaws, check = .ok flaws → ∀ f ∈ flaws, P f

namespace Finds

variable {P : Flaw → Prop} {flaws more : List Flaw} {check : Except Fault (List Flaw)}

theorem of_all (h : ∀ f ∈ flaws, P f) : Finds P (.ok flaws) := by
  rintro _ ⟨⟩
  exact h

theorem of_ok (h : Finds P (.ok flaws)) : ∀ f ∈ flaws, P f := h flaws rfl

theorem nil : Finds P (.ok []) := of_all (by simp)

theorem single {flaw : Flaw} (h : P flaw) : Finds P (.ok [flaw]) := of_all (by simpa using h)

theorem present {present : Bool} {flaw : Flaw} (h : P flaw) :
    Finds P (.ok (flawUnless present flaw)) := by
  unfold flawUnless
  split
  · exact nil
  · exact single h

theorem append (h : Finds P (.ok flaws)) (h' : Finds P (.ok more)) : Finds P (.ok (flaws ++ more)) :=
  of_all (List.forall_mem_append.2 ⟨h.of_ok, h'.of_ok⟩)

theorem bind {f : List Flaw → Except Fault (List Flaw)} (h : Finds P check)
    (hf : ∀ flaws, Finds P (.ok flaws) → Finds P (f flaws)) : Finds P (check >>= f) := by
  intro flaws hflaws
  obtain ⟨found, hfound, hflaws⟩ := bind_eq_ok.1 hflaws
  exact hf found (of_all (h found hfound)) flaws hflaws

/-- What is computed first is no flaw. -/
theorem after {β : Type} {x : Except Fault β} {f : β → Except Fault (List Flaw)}
    (hf : ∀ b, Finds P (f b)) : Finds P (x >>= f) := by
  intro flaws hflaws
  obtain ⟨b, -, hflaws⟩ := bind_eq_ok.1 hflaws
  exact hf b flaws hflaws

theorem both {x y : Except Fault (List Flaw)} (hx : Finds P x) (hy : Finds P y) :
    Finds P (do
      let flaws ← x
      let more ← y
      .ok (flaws ++ more)) :=
  hx.bind fun _ hflaws => hy.bind fun _ hmore => hflaws.append hmore

theorem flatMap {β : Type} {f : β → List Flaw} {bs : List β}
    (h : ∀ b ∈ bs, Finds P (.ok (f b))) : Finds P (.ok (bs.flatMap f)) := by
  refine of_all fun flaw hflaw => ?_
  obtain ⟨b, hb, hflaw⟩ := List.mem_flatMap.1 hflaw
  exact (h b hb).of_ok flaw hflaw

/-- A check of every entry of a list. -/
theorem mapM {β : Type} {f : β → Except Fault (List Flaw)} {bs : List β}
    (h : ∀ b, Finds P (f b)) :
    ∀ {found : List (List Flaw)}, bs.mapM f = .ok found → Finds P (.ok found.flatten) := by
  induction bs with
  | nil =>
    rintro _ ⟨⟩
    exact nil
  | cons first rest ih =>
    intro found hfound
    rw [List.mapM_cons] at hfound
    obtain ⟨flaws, hflaws, hfound⟩ := bind_eq_ok.1 hfound
    obtain ⟨later, hlater, hfound⟩ := bind_eq_ok.1 hfound
    cases hfound
    exact (of_all (h first flaws hflaws)).append (ih hlater)

theorem each {β : Type} {f : β → Except Fault (List Flaw)} {bs : List β}
    (h : ∀ b, Finds P (f b)) : Finds P (do
      let found ← bs.mapM f
      .ok found.flatten) := by
  intro flaws hflaws
  obtain ⟨found, hfound, hflaws⟩ := bind_eq_ok.1 hflaws
  exact mapM h hfound flaws hflaws

end Finds

/-! ## Flaws of parts -/

/-- Whether a flaw is one of the story as a whole: a node that nothing refers to, or a circle of
redirects. -/
def Flaw.isOverall : Flaw → Bool
  | .unreferenced _ | .redirectCycle _ => true
  | _ => false

/-- A check finds only flaws of parts of the story. -/
def FindsLocal (check : Except Fault (List Flaw)) : Prop :=
  Finds (fun f => f.isOverall = false) check

theorem reference_finds {present : Bool} {flaw : Flaw} (h : flaw.isOverall = false) :
    FindsLocal (.ok (flawUnless present flaw)) := Finds.present h

variable [Number α] {language : PatternLanguage} {s : Story α} {place : Place}

namespace Effect

theorem lock_finds {op node : String} {index : Int} :
    FindsLocal (lockFlaws s place op node index) := by
  unfold lockFlaws
  split
  · exact Finds.single rfl
  · split
    · exact Finds.nil
    · exact Finds.after fun _ => Finds.single rfl

theorem flaws_find (e : Effect α) : FindsLocal (e.flaws s place) := by
  cases e with
  | addItem | removeItem | addStat | addCurrency | goto => exact Finds.present rfl
  | lockChoice | unlockChoice => exact lock_finds
  | lootTable table =>
    rw [flaws]
    split
    · exact Finds.single rfl
    · exact Finds.after fun _ => reference_finds rfl
  | _ => exact Finds.nil

theorem flawsOf_find (effects : List (Effect α)) : FindsLocal (flawsOf s place effects) :=
  Finds.each flaws_find

end Effect

omit [Number α] in
theorem Condition.flaws_find (c : Condition α) : FindsLocal (.ok (c.flaws s place)) := by
  have hnamed : ∀ {present : String → Bool} {flaw : String → Flaw} {named : Option String},
      (∀ id, (flaw id).isOverall = false) → FindsLocal (.ok (flawUnlessNamed present flaw named)) := by
    intro present flaw named h
    cases named with
    | none => exact Finds.nil
    | some id => exact Finds.present (h id)
  cases c with
  | flagIs => exact Finds.nil
  | _ => exact hnamed fun _ => rfl

omit [Number α] in
theorem media_find {media : List MediaRef} : FindsLocal (.ok (mediaFlaws s place media)) :=
  Finds.flatMap fun _ _ => Finds.present rfl

namespace Puzzle

variable {p : Puzzle α}

theorem outcome_finds {success : Bool} {o : Outcome α} :
    FindsLocal (outcomeFlaws s place success o) := by
  unfold outcomeFlaws
  refine (Effect.flawsOf_find o.effects).bind fun flaws hflaws => ?_
  exact (Finds.flatMap fun _ _ => reference_finds rfl).append hflaws

omit [Number α] in
theorem pattern_finds (task : Task α) : FindsLocal (patternFlaws language place task) := by
  unfold patternFlaws
  split
  · split
    · exact Finds.nil
    · exact Finds.single rfl
    · rintro flaws ⟨⟩
  · exact Finds.nil

theorem own_find {considered : String → Bool} :
    FindsLocal (p.ownFlaws language s place considered) := by
  have hmedia : FindsLocal (.ok (if considered "media" = true then mediaFlaws s place p.media
      else [])) := by
    split
    · exact media_find
    · exact Finds.nil
  unfold ownFlaws
  intro flaws hflaws
  obtain ⟨outcomes, houtcomes, hflaws⟩ := bind_eq_ok.1 hflaws
  have hfront := hmedia.append (Finds.mapM (fun _ => outcome_finds) houtcomes)
  dsimp only at hflaws
  split at hflaws
  · exact (pattern_finds p.task).bind (fun _ hpattern => hfront.append hpattern) flaws hflaws
  · exact hfront.append Finds.nil flaws hflaws

theorem variant_finds {v : Variant α} : FindsLocal (p.variantFlaws language s place v) := by
  unfold variantFlaws
  split
  · exact Finds.single rfl
  · exact Finds.single rfl
  · exact own_find

theorem variants_find {variants : List (Variant α)} :
    ∀ index, FindsLocal (p.variantsFlaws language s place index variants) := by
  induction variants with
  | nil => exact fun _ => Finds.nil
  | cons v rest ih => exact fun index => Finds.both variant_finds (ih (index + 1))

omit [Number α] in
theorem hint_finds : FindsLocal (.ok (p.hintFlaws s place)) := by
  unfold hintFlaws
  split
  · exact Finds.present rfl
  · exact Finds.nil

theorem flaws_find : FindsLocal (p.flaws language s) := by
  unfold flaws
  refine own_find.bind fun own hown => (variants_find 0).bind fun variants hvariants => ?_
  exact (hown.append hint_finds).append hvariants

end Puzzle

namespace Node

variable {n : Node α}

theorem choice_finds {index : Nat} {c : Choice α} : FindsLocal (n.choiceFlaws s index c) := by
  unfold choiceFlaws
  refine (Effect.flawsOf_find c.effects).bind fun effects heffects => ?_
  refine (((reference_finds rfl).append (reference_finds rfl)).append heffects).append ?_
  exact Finds.flatMap fun c _ => c.flaws_find

theorem choices_find {choices : List (Choice α)} :
    ∀ index, FindsLocal (n.choicesFlaws s index choices) := by
  induction choices with
  | nil => exact fun _ => Finds.nil
  | cons c rest ih => exact fun index => Finds.both choice_finds (ih (index + 1))

theorem flaws_find : FindsLocal (n.flaws language s) := by
  unfold flaws
  refine (Effect.flawsOf_find n.onEnterEffects).bind fun entry hentry => ?_
  refine (choices_find 0).bind fun choices hchoices => ?_
  have hparts : ∀ puzzle, FindsLocal (.ok puzzle) → FindsLocal (.ok (mediaFlaws s (.node n.id) n.media ++
      entry ++ flawUnless (!n.isEnding || n.choices.isEmpty) (Flaw.endingWithChoices n.id) ++ choices ++
      puzzle)) := by
    intro puzzle hpuzzle
    exact (((media_find.append hentry).append (Finds.present rfl)).append hchoices).append hpuzzle
  dsimp only
  split
  · exact Puzzle.flaws_find.bind hparts
  · exact hparts [] Finds.nil

end Node

/-! ## Stories -/

namespace Story

omit [Number α] in
theorem metadata_finds : FindsLocal (.ok s.metadataFlaws) :=
  (((reference_finds rfl).append (reference_finds rfl)).append (reference_finds rfl)).append
    (reference_finds rfl)

omit [Number α] in
theorem ids_find : FindsLocal (.ok s.idFlaws) := by
  have hduplicates : ∀ kind ids, FindsLocal (.ok (duplicates kind ids)) := by
    intro kind ids
    refine Finds.of_all fun f hf => ?_
    obtain ⟨id, -, rfl⟩ := List.mem_map.1 hf
    rfl
  exact (((((hduplicates _ _).append (hduplicates _ _)).append (hduplicates _ _)).append
    (hduplicates _ _)).append (hduplicates _ _)).append (hduplicates _ _)

theorem stat_finds {P : Flaw → Prop} (hbounds : ∀ stat low high, P (.boundsReversed stat low high))
    (hstart : ∀ stat start low high, P (.startOutside stat start low high)) (t : Stat α) :
    Finds P (statFlaws t) := by
  unfold statFlaws
  split
  · exact Finds.after fun _ => Finds.after fun _ => Finds.single (hbounds _ _ _)
  · split
    · exact Finds.nil
    · exact Finds.after fun _ => Finds.after fun _ => Finds.after fun _ => Finds.single (hstart _ _ _ _)

theorem nodes_find {nodes : List (Node α)} : FindsLocal (s.nodeFlaws language nodes) := by
  induction nodes with
  | nil => exact Finds.nil
  | cons n rest ih => exact Finds.both Node.flaws_find ih

/-- What the check of a story finds besides the nodes that nothing refers to and the circles of its
redirects are flaws of its parts. -/
theorem flaws_eq {flaws : List Flaw} (h : s.flaws language = .ok flaws) :
    ∃ plain, flaws = plain ++ s.unreferenced ++ (Redirects.cycles s.redirects).map .redirectCycle ∧
      ∀ f ∈ plain, f.isOverall = false := by
  unfold Story.flaws at h
  obtain ⟨stats, hstats, h⟩ := bind_eq_ok.1 h
  obtain ⟨nodes, hnodes, h⟩ := bind_eq_ok.1 h
  cases h
  refine ⟨_, rfl, Finds.of_ok ?_⟩
  have hstats : FindsLocal (.ok stats.flatten) :=
    Finds.mapM (stat_finds (fun _ _ _ => rfl) fun _ _ _ _ => rfl) hstats
  have hplain : FindsLocal (.ok nodes) := Finds.of_all (nodes_find nodes hnodes)
  exact ((metadata_finds.append ids_find).append hstats).append hplain

theorem mem_unreferenced {f : Flaw} : f ∈ s.unreferenced ↔ ∃ first ∈ s.firstNode?,
    ∃ n ∈ s.nodes, f = .unreferenced n.id ∧ n.id ≠ first.id ∧
      n.id ∉ s.nodes.flatMap Node.targets := by
  unfold unreferenced firstNode?
  cases s.nodes with
  | nil => simp
  | cons first rest =>
    simp only [List.mem_map, List.mem_filter, Bool.and_eq_true, decide_eq_true_eq,
      Bool.not_eq_eq_eq_not, Bool.not_true, ← Bool.not_eq_true, List.contains_iff_mem, List.head?_cons,
      Option.mem_some_iff]
    constructor
    · rintro ⟨n, ⟨hn, hother, hout⟩, rfl⟩
      exact ⟨first, rfl, n, hn, rfl, hother, hout⟩
    · rintro ⟨_, rfl, n, hn, rfl, hother, hout⟩
      exact ⟨n, ⟨hn, hother, hout⟩, rfl⟩

end Story

/-! ## The words of warnings -/

/-- How a warning of a circle begins. -/
def cycleWords : String := "on_enter redirect cycle detected: "

/-- Whether a flaw is a circle of redirects. -/
def Flaw.isCycle : Flaw → Bool
  | .redirectCycle _ => true
  | _ => false

/-- A verdict warns of a circle of redirects. -/
def Verdict.WarnsOfCycle (v : Verdict) : Prop := ∃ circle, cycleWords ++ circle ∈ v.warnings

/-- A text begins with the word for a node or that for a puzzle, as far as their first letters go. -/
def Placed (text : String) : Prop :=
  text.toList.head? = some 'N' ∨ text.toList.head? = some 'P'

namespace Placed

theorem append {text : String} (h : Placed text) (rest : String) : Placed (text ++ rest) := by
  unfold Placed at h ⊢
  rw [String.toList_append, List.head?_append]
  rcases h with h | h <;> rw [h]
  · exact .inl rfl
  · exact .inr rfl

theorem ne_cycleWords {text : String} (h : Placed text) (circle : String) :
    text ≠ cycleWords ++ circle := by
  rintro rfl
  unfold Placed at h
  rw [String.toList_append, List.head?_append] at h
  rcases h with h | h <;> cases h

theorem node : Placed "Node '" := .inl rfl

theorem puzzle : Placed "Puzzle '" := .inr rfl

end Placed

theorem Place.placed (place : Place) : Placed place.text := by
  induction place with
  | node id => exact (Placed.node.append id).append _
  | onEnter owner => exact (Placed.node.append owner).append _
  | choice owner index => exact (((Placed.node.append owner).append _).append _).append _
  | choiceEffects owner index => exact (((Placed.node.append owner).append _).append _).append _
  | puzzle id => exact (Placed.puzzle.append id).append _
  | variant owner index ih => exact ((ih.append _).append _).append _
  | outcome owner success ih => exact (ih.append _).append _
  | outcomeEffects owner success ih => exact ((ih.append _).append _).append _

/-- No other warning begins like that of a circle: they begin with the place that they are about. -/
theorem Flaw.isCycle_of_text {f : Flaw} (hwarning : f.isWarning = true) {circle : String}
    (h : f.text = cycleWords ++ circle) : f.isCycle = true := by
  cases f with
  | redirectCycle => rfl
  | undeclaredCurrency place id =>
    exact absurd h (((place.placed.append _).append id).ne_cycleWords circle)
  | emptyLoot place => exact absurd h ((place.placed.append _).ne_cycleWords circle)
  | requiredCurrency place id =>
    exact absurd h (((place.placed.append _).append id).ne_cycleWords circle)
  | requiredPuzzle place id =>
    exact absurd h ((((place.placed.append _).append id).append _).ne_cycleWords circle)
  | hintCurrency place id =>
    exact absurd h (((place.placed.append _).append id).ne_cycleWords circle)
  | unreferenced node =>
    exact absurd h (((Placed.node.append node).append _).ne_cycleWords circle)
  | _ => cases hwarning

/-- The check warns of a circle just if there is one. -/
theorem Story.check_warnsOfCycle {verdict : Verdict} (h : s.check language = .ok verdict) :
    verdict.WarnsOfCycle ↔ Redirects.cycles s.redirects ≠ [] := by
  unfold check at h
  obtain ⟨flaws, hflaws, h⟩ := bind_eq_ok.1 h
  cases h
  obtain ⟨plain, rfl, hplain⟩ := flaws_eq hflaws
  constructor
  · rintro ⟨circle, hcircle⟩ hnil
    obtain ⟨f, hf, htext⟩ := List.mem_map.1 hcircle
    obtain ⟨hf, hwarning⟩ := List.mem_filter.1 hf
    rw [hnil, List.map_nil, List.append_nil] at hf
    have hcycle := Flaw.isCycle_of_text hwarning htext
    rcases List.mem_append.1 hf with hf | hf
    · have hlocal := hplain f hf
      cases f <;> cases hcycle
      cases hlocal
    · obtain ⟨_, -, n, -, rfl, -⟩ := mem_unreferenced.1 hf
      cases hcycle
  · intro hsome
    obtain ⟨cycle, rest, hcycles⟩ := List.exists_cons_of_ne_nil hsome
    refine ⟨_, List.mem_map.2 ⟨.redirectCycle cycle, List.mem_filter.2 ⟨?_, rfl⟩, rfl⟩⟩
    rw [hcycles]
    exact List.mem_append_right _ List.mem_cons_self

end StoryRules
