import StoryRules.Proofs.Decimal.Quotient
import StoryRules.Proofs.Puzzle.Marks

/-!
# Selections are sets

In three kinds of tasks an answer selects from what is offered: options, pairs of positions, areas.  What it selects is
a set: neither the order in which it is written, nor how often a thing is written, nor the kind of sequence makes a
difference to its score.  And whatever belongs to the key may be added without loss.

    chosen and chosen' have the same members → s = s'                                       (score_selection)
-/

namespace StoryRules

/-! ## Answers that select -/

/-- What an answer can select. -/
inductive Selectable where
  | option (index : Int)
  | pair (left right : Int)
  | area (id : String)
deriving DecidableEq

/-- How it is written.  The two positions of a pair stand in a sequence with an order. -/
inductive Selectable.Written : Selectable → Datum Amount → Prop
  | option (index : Int) : Written (.option index) (.whole index)
  | pair {kind : SeqKind} (left right : Int) (hkind : kind.isSet = false) :
      Written (.pair left right) (.seq kind [.whole left, .whole right])
  | area (id : String) : Written (.area id) (.text id)

/-- What a task lets answers select. -/
inductive Task.Offers : Task Amount → Selectable → Prop
  | mcq {options : List String} {correct : List Int} {multiple shuffle : Bool} (index : Int) :
      Offers (.mcq options correct multiple shuffle) (.option index)
  | matching {left right : List String} {pairs : List (Int × Int)} {shuffle partialScoring : Bool} (i j : Int) :
      Offers (.matching left right pairs shuffle partialScoring) (.pair i j)
  | hotspot {areas : List (Area Amount)} {allowMultiple : Bool} (id : String) :
      Offers (.hotspot areas allowMultiple) (.area id)

/-- Answers to a task are selections. -/
def Task.IsSelection (task : Task Amount) : Prop := ∃ x, task.Offers x

/-- What a task wants selected. -/
def Task.key : Task Amount → List Selectable
  | .mcq _ correct _ _ => correct.map .option
  | .matching _ _ pairs _ _ => pairs.map fun p => .pair p.1 p.2
  | .hotspot areas _ => ((areas.filter (·.correct)).map (·.id)).map .area
  | _ => []

/-- An answer is a sequence of any kind, a set as well, in which the chosen things are written. -/
structure Task.Selects (task : Task Amount) (answer : Datum Amount) (chosen : List Selectable) : Prop where
  selection : task.IsSelection
  offered : ∀ x ∈ chosen, task.Offers x
  written : ∃ kind items, answer = .seq kind items ∧ List.Forall₂ Selectable.Written chosen items

/-! ## Reading selections -/

/-- What is written one by one is read one by one. -/
theorem mapM_of_written {β : Type} {task : Task Amount} {read : Datum Amount → Option β} {embed : β → Selectable}
    (h : ∀ x d, task.Offers x → Selectable.Written x d → ∃ b, x = embed b ∧ read d = some b) {chosen : List Selectable}
    {items : List (Datum Amount)} (hwritten : List.Forall₂ Selectable.Written chosen items)
    (hoffered : ∀ x ∈ chosen, task.Offers x) : ∃ bs, chosen = bs.map embed ∧ items.mapM read = some bs := by
  induction hwritten with
  | nil => exact ⟨[], rfl, rfl⟩
  | cons hx _ ih =>
    obtain ⟨hfirst, hrest⟩ := List.forall_mem_cons.1 hoffered
    obtain ⟨b, rfl, hb⟩ := h _ _ hfirst hx
    obtain ⟨bs, rfl, hbs⟩ := ih hrest
    exact ⟨b :: bs, rfl, by simp [hb, hbs]⟩

section

variable {task : Task Amount} {answer : Datum Amount} {chosen : List Selectable}

theorem Task.Selects.indices {options : List String} {correct : List Int} {multiple shuffle : Bool}
    (h : (Task.mcq options correct multiple shuffle).Selects answer chosen) :
    ∃ ns, chosen = ns.map .option ∧ answer.indices? = some ns := by
  obtain ⟨kind, items, rfl, hwritten⟩ := h.written
  refine mapM_of_written ?_ hwritten h.offered
  intro x d hx hd
  cases hx with
  | mcq index =>
    cases hd
    exact ⟨index, rfl, rfl⟩

theorem Task.Selects.indexPairs {left right : List String} {pairs : List (Int × Int)} {shuffle partialScoring : Bool}
    (h : (Task.matching left right pairs shuffle partialScoring).Selects answer chosen) :
    ∃ ps : List (Int × Int), chosen = ps.map (fun p => .pair p.1 p.2) ∧ answer.indexPairs? = some ps := by
  obtain ⟨kind, items, rfl, hwritten⟩ := h.written
  refine mapM_of_written ?_ hwritten h.offered
  intro x d hx hd
  cases hx with
  | matching i j =>
    cases hd with
    | pair _ _ hkind =>
      refine ⟨(i, j), rfl, ?_⟩
      unfold Datum.indexPair? Datum.orderedIndices?
      simp only [hkind]
      rfl

theorem Task.Selects.names {areas : List (Area Amount)} {allowMultiple : Bool}
    (h : (Task.hotspot areas allowMultiple).Selects answer chosen) :
    ∃ ids, chosen = ids.map .area ∧ answer.names? = some ids := by
  obtain ⟨kind, items, rfl, hwritten⟩ := h.written
  refine mapM_of_written ?_ hwritten h.offered
  intro x d hx hd
  cases hx with
  | hotspot id =>
    cases hd
    exact ⟨id, rfl, rfl⟩

end

/-! ## Members -/

namespace Puzzle

open Score

section

variable {β : Type} [BEq β] [LawfulBEq β] {chosen chosen' declared : List β}

theorem sameMembers_iff : sameMembers chosen declared = true ↔ ∀ b, b ∈ chosen ↔ b ∈ declared := by
  unfold sameMembers
  simp only [Bool.and_eq_true, List.all_eq_true, List.contains_iff_mem]
  exact ⟨fun h b => ⟨h.1 b, h.2 b⟩, fun h => ⟨fun b => (h b).1, fun b => (h b).2⟩⟩

theorem sameMembers_congr (h : ∀ b, b ∈ chosen ↔ b ∈ chosen') :
    sameMembers chosen declared = sameMembers chosen' declared := by
  rw [Bool.eq_iff_iff, sameMembers_iff, sameMembers_iff]
  simp only [h]

theorem hits_congr (h : ∀ b, b ∈ chosen ↔ b ∈ chosen') : hits chosen declared = hits chosen' declared := by
  unfold hits
  have hsame : ∀ b, chosen.contains b = chosen'.contains b := fun b => by
    rw [Bool.eq_iff_iff, List.contains_iff_mem, List.contains_iff_mem]
    exact h b
  simp only [hsame]

theorem hits_mono (h : chosen ⊆ chosen') : hits chosen declared ≤ hits chosen' declared := by
  unfold hits
  rw [← List.countP_eq_length_filter, ← List.countP_eq_length_filter]
  refine List.countP_mono_left fun b _ hb => ?_
  rw [List.contains_iff_mem] at hb ⊢
  exact h hb

end

/-! ## Members under another name -/

section

variable {β γ : Type} [BEq β] [LawfulBEq β] [BEq γ] [LawfulBEq γ] {embed : β → γ} (hembed : embed.Injective)

include hembed

theorem contains_map (chosen : List β) (b : β) : (chosen.map embed).contains (embed b) = chosen.contains b := by
  rw [Bool.eq_iff_iff, List.contains_iff_mem, List.contains_iff_mem]
  exact List.mem_map_of_injective hembed

theorem sameMembers_map (chosen declared : List β) :
    sameMembers (chosen.map embed) (declared.map embed) = sameMembers chosen declared := by
  unfold sameMembers
  simp only [List.all_map, Function.comp_def, contains_map hembed]

theorem eraseDups_map (declared : List β) : (declared.map embed).eraseDups = declared.eraseDups.map embed := by
  -- what is erased after the first entry is a filter of the rest, so the induction is on the length
  induction hlength : declared.length using Nat.strongRecOn generalizing declared with
  | ind n ih =>
    cases declared with
    | nil => rfl
    | cons b rest =>
      have hkept : (rest.map embed).filter (fun c => !c == embed b) = (rest.filter fun c => !c == b).map embed := by
        rw [List.filter_map]
        refine congrArg (List.map embed) (List.filter_congr fun c _ => congrArg not ?_)
        rw [Bool.eq_iff_iff, beq_iff_eq, beq_iff_eq]
        exact hembed.eq_iff
      have hshort : (rest.filter fun c => !c == b).length < n :=
        (List.length_filter_le _ _).trans_lt (hlength ▸ Nat.lt_succ_self _)
      rw [List.map_cons, List.eraseDups_cons, List.eraseDups_cons, List.map_cons, hkept, ih _ hshort _ rfl]

theorem hits_map (chosen declared : List β) : hits (chosen.map embed) (declared.map embed) = hits chosen declared := by
  unfold hits
  rw [eraseDups_map hembed, List.filter_map, List.length_map]
  simp only [Function.comp_def, contains_map hembed]

theorem length_eraseDups_map (declared : List β) :
    (declared.map embed).eraseDups.length = declared.eraseDups.length := by
  rw [eraseDups_map hembed, List.length_map]

end

end Puzzle

/-! ## The score of a selection -/

/-- Whether parts of a selection count. -/
def Task.countsParts : Task Amount → Bool
  | .matching _ _ _ _ partialScoring => partialScoring
  | .hotspot _ _ => true
  | _ => false

/-- What a selection scores. -/
def Task.selected (task : Task Amount) (chosen : List Selectable) : Score Amount :=
  let correct := Puzzle.sameMembers chosen task.key
  if task.countsParts then
    { correct, score := Score.part (Puzzle.hits chosen task.key) task.key.eraseDups.length correct }
  else .binary correct

namespace Puzzle

open Score

/-- An answer scores what it selects, whatever it looks like. -/
theorem score_of_selects {language : PatternLanguage} {p : Puzzle Amount} {answer : Datum Amount}
    {chosen : List Selectable} (h : p.task.Selects answer chosen) :
    p.score language answer = .ok (p.task.selected chosen, []) := by
  obtain ⟨x, hx⟩ := h.selection
  unfold Puzzle.score
  generalize p.task = task at h hx
  cases hx with
  | mcq =>
    obtain ⟨ns, rfl, hns⟩ := h.indices
    have hinj : Function.Injective Selectable.option := fun _ _ => Selectable.option.inj
    show Except.ok (scoreMcq _ answer, []) = _
    unfold scoreMcq Task.selected Task.key
    rw [hns, sameMembers_map hinj]
    rfl
  | matching =>
    obtain ⟨ps, rfl, hps⟩ := h.indexPairs
    have hinj : Function.Injective fun p : Int × Int => Selectable.pair p.1 p.2 := fun _ _ heq =>
      Prod.ext (Selectable.pair.inj heq).1 (Selectable.pair.inj heq).2
    show Except.ok (scoreMatching _ _ answer, []) = _
    unfold scoreMatching Task.selected Task.key
    rw [hps, sameMembers_map hinj, hits_map hinj, length_eraseDups_map hinj]
    rfl
  | hotspot =>
    obtain ⟨ids, rfl, hids⟩ := h.names
    have hinj : Function.Injective Selectable.area := fun _ _ => Selectable.area.inj
    show Except.ok (scoreHotspot _ answer, []) = _
    unfold scoreHotspot Task.selected Task.key
    rw [hids, sameMembers_map hinj, hits_map hinj, length_eraseDups_map hinj]
    rfl

theorem full_not_less {correct correct' : Bool} (h : correct = true → correct' = true) :
    Number.less (full correct' : Amount) (full correct) = false := by
  cases correct with
  | false => cases correct' <;> decide +kernel
  | true =>
    rw [h rfl]
    decide +kernel

/-- More hits, and no less a right answer, never make a lower score. -/
theorem part_not_less {m n total : Nat} {correct correct' : Bool} (hcorrect : correct = true → correct' = true)
    (hmn : m ≤ n) (hn : n ≤ total) :
    Number.less (part n total correct' : Amount) (part m total correct) = false := by
  unfold part
  split
  · exact full_not_less hcorrect
  · next hne => exact Amount.ratio_not_less hmn hn (Nat.pos_of_ne_zero hne)

theorem selected_congr {task : Task Amount} {chosen chosen' : List Selectable} (h : ∀ x, x ∈ chosen ↔ x ∈ chosen') :
    task.selected chosen = task.selected chosen' := by
  unfold Task.selected
  rw [sameMembers_congr h, hits_congr h]

/-- What belongs to the key is added without loss. -/
theorem selected_not_less {task : Task Amount} {chosen chosen' : List Selectable} {x : Selectable} (hx : x ∈ task.key)
    (h : ∀ y, y ∈ chosen' ↔ y = x ∨ y ∈ chosen) :
    Number.less (task.selected chosen').score (task.selected chosen).score = false := by
  have hcorrect : sameMembers chosen task.key = true → sameMembers chosen' task.key = true := by
    rw [sameMembers_iff, sameMembers_iff]
    intro hsame y
    rw [h, hsame, or_iff_right_of_imp]
    rintro rfl
    exact hx
  unfold Task.selected
  split
  · exact part_not_less hcorrect (hits_mono fun y hy => (h y).2 (.inr hy)) (hits_le _ _)
  · exact full_not_less hcorrect

/-- Selections with the same members get the same result; what is selected already adds nothing, and what belongs to
the key is added without loss. -/
theorem score_selection {language : PatternLanguage} {p : Puzzle Amount} {answer answer' : Datum Amount}
    {chosen chosen' : List Selectable} (h : p.task.Selects answer chosen) (h' : p.task.Selects answer' chosen') :
    ∃ s s', p.score language answer = .ok (s, []) ∧ p.score language answer' = .ok (s', []) ∧
      ((∀ x, x ∈ chosen ↔ x ∈ chosen') → s = s') ∧
      (∀ x ∈ chosen, (∀ y, y ∈ chosen' ↔ y = x ∨ y ∈ chosen) → s' = s) ∧
      ∀ x ∈ p.task.key, (∀ y, y ∈ chosen' ↔ y = x ∨ y ∈ chosen) → Number.less s'.score s.score = false := by
  refine ⟨_, _, score_of_selects h, score_of_selects h', selected_congr, ?_, fun x => selected_not_less⟩
  intro x hx hadded
  refine selected_congr fun y => ?_
  rw [hadded, or_iff_right_of_imp]
  rintro rfl
  exact hx

/-- A matching whose key names a pair twice. -/
def twins : Puzzle Amount where
  id := "twins"
  prompt := ""
  media := []
  timeLimit := none
  attemptsMax := none
  hints := []
  variants := []
  success := none
  failure := none
  gatesChoices := false
  dynamic := none
  task := .matching ["sun", "moon"] ["day", "night"] [(0, 0), (1, 1), (0, 0)] false true

theorem twins_selection : ∃ s s' : Score Amount,
    twins.score Pattern.language (.seq .set [.seq .tuple [.whole 0, .whole 0]]) = .ok (s, []) ∧
    twins.score Pattern.language (.seq .list [.seq .list [.whole 1, .whole 1], .seq .tuple [.whole 0, .whole 0]]) =
      .ok (s', []) ∧ Number.less s'.score s.score = false := by
  have hone : twins.task.Selects (.seq .set [.seq .tuple [.whole 0, .whole 0]]) [.pair 0 0] :=
    { selection := ⟨_, .matching 0 0⟩
      offered := List.forall_mem_singleton.2 (.matching 0 0)
      written := ⟨_, _, rfl, .cons (.pair 0 0 rfl) .nil⟩ }
  have hboth : twins.task.Selects
      (.seq .list [.seq .list [.whole 1, .whole 1], .seq .tuple [.whole 0, .whole 0]]) [.pair 1 1, .pair 0 0] :=
    { selection := ⟨_, .matching 0 0⟩
      offered := List.forall_mem_cons.2 ⟨.matching 1 1, List.forall_mem_singleton.2 (.matching 0 0)⟩
      written := ⟨_, _, rfl, .cons (.pair 1 1 rfl) (.cons (.pair 0 0 rfl) .nil)⟩ }
  obtain ⟨s, s', hs, hs', -, -, hadded⟩ := score_selection hone hboth
  exact ⟨s, s', hs, hs', hadded (.pair 1 1) (by decide) (by simp)⟩

end Puzzle

end StoryRules
