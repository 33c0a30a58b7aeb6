import StoryRules.Proofs.Requirement.Evaluate
import StoryRules.Proofs.Requirement.Meaning
import StoryRules.Proofs.Table

/-!
# Which conditions matter

A condition that misses no part reads one thing in a state, its subject; one that misses a part reads nothing.
Of two states that say the same of everything else, an expression can be true of one and false of the other only if
the condition takes both values itself, and if a state leaves the value open: no part beside the condition, on the
way down to it, has the value there that decides the whole.  Where no two conditions share a subject, states can be
put together from others, and so it is enough that each of these parts leaves the value open in some state.

    r.Influences k ↔ c.Varies ∧ ∃ s, Open s beside                            (Descent.influences_iff)
    (∃ s, Open s beside) ↔ ∀ entry ∈ beside, entry.2.Takes !entry.1           (Descent.exists_open_iff)
-/

namespace StoryRules

variable {α : Type}

/-! ## What conditions read -/

/-- What a condition can be about. -/
inductive Subject where
  | item (id : String)
  | currency (id : String)
  | stat (id : String)
  | flag (name : String)
  | puzzle (id : String)
  | node (id : String)
deriving DecidableEq

/-- What a condition reads.  An incomplete one reads nothing. -/
def Condition.subject? : Condition α → Option Subject
  | .hasItem (some item) (some _) => some (.item item)
  | .inventoryLt (some item) (some _) => some (.item item)
  | .currencyGte (some currency) (some _) => some (.currency currency)
  | .currencyLt (some currency) (some _) => some (.currency currency)
  | .statGte (some stat) (some _) => some (.stat stat)
  | .statBetween (some stat) (some _) (some _) => some (.stat stat)
  | .flagIs (some flag) (some _) => some (.flag flag)
  | .puzzleSolved (some puzzle) => some (.puzzle puzzle)
  | .visitedNode (some node) => some (.node node)
  | _ => none

/-- What is said of a subject. -/
inductive Fact (α : Type) where
  | count (n : Int)
  | amount (a : α)
  | truth (b : Bool)

/-- Some keys as in one table, and all others as in another. -/
def Table.splice {β : Type} (here : String → Bool) (t u : Table β) : Table β :=
  t.filter (fun entry => here entry.1) ++ u.filter fun entry => !here entry.1

theorem Table.get?_splice {β : Type} (here : String → Bool) (t u : Table β) (key : String) :
    (splice here t u).get? key = if here key then t.get? key else u.get? key := by
  rw [splice, get?_append_or, get?_filter, get?_filter fun key => !here key]
  cases here key
  · exact Option.none_or
  · exact Option.or_none

namespace State

/-- What one state says of some subjects, and another of all others. -/
def splice (xs : List Subject) (s t : State α) : State α :=
  { t with
    visited := s.visited.filter (fun id => .node id ∈ xs) ++ t.visited.filter fun id => .node id ∉ xs
    inventory := Table.splice (fun id => .item id ∈ xs) s.inventory t.inventory
    currencies := Table.splice (fun id => .currency id ∈ xs) s.currencies t.currencies
    stats := Table.splice (fun id => .stat id ∈ xs) s.stats t.stats
    flags := Table.splice (fun name => .flag name ∈ xs) s.flags t.flags
    puzzles := Table.splice (fun id => .puzzle id ∈ xs) s.puzzles t.puzzles }

variable [Number α]

/-- What a state says of a subject. -/
def about (s : State α) : Subject → Fact α
  | .item id => .count (s.quantity id)
  | .currency id => .amount (s.currency id)
  | .stat id => .amount (s.stat id)
  | .flag name => .truth (s.flag name)
  | .puzzle id => .truth (s.isSolved id)
  | .node id => .truth (s.hasVisited id)

theorem about_splice (xs : List Subject) (s t : State α) (x : Subject) :
    (splice xs s t).about x = if x ∈ xs then s.about x else t.about x := by
  cases x with
  | node id =>
    by_cases h : Subject.node id ∈ xs <;> simp [about, hasVisited, splice, h]
  | _ =>
    simp only [about, quantity, currency, stat, flag, isSolved, progress, splice, Table.get?_splice, decide_eq_true_eq]
    split <;> rfl

end State

namespace Condition

variable [Number α] {s t : State α} {c : Condition α}

/-- A condition says the same of two states that say the same of its subject. -/
theorem test_congr (h : ∀ x ∈ c.subject?, s.about x = t.about x) : c.test s = c.test t := by
  have hholds : c.holds s = c.holds t := by
    unfold holds
    split
    case h_10 => rfl
    all_goals
      have hfact := h _ rfl
      simp only [State.about, Fact.count.injEq, Fact.amount.injEq, Fact.truth.injEq] at hfact
      simp only [hfact]
  rw [test, test, hholds]

/-- A condition takes both values. -/
def Varies (c : Condition α) : Prop :=
  (∃ s : State α, (c.test s).1 = true) ∧ ∃ s : State α, (c.test s).1 = false

/-- The amounts that a condition compares with let some amount through and keep some other out. -/
def Splits : Condition α → Prop
  | .currencyGte _ (some a) | .statGte _ (some a) =>
    (∃ x, Number.atMost a x = true) ∧ ∃ x, Number.atMost a x = false
  | .currencyLt _ (some a) => (∃ x, Number.less x a = true) ∧ ∃ x, Number.less x a = false
  | .statBetween _ (some low) (some high) =>
    (∃ x, (Number.atMost low x && Number.atMost x high) = true) ∧
      ∃ x, (Number.atMost low x && Number.atMost x high) = false
  | _ => True

theorem test_of_complete (h : c.missing = []) (s : State α) : (c.test s).1 = c.holds s := by
  rw [test, h]
  rfl

/-- A condition that misses a part is false in every state. -/
theorem test_of_incomplete (h : c.missing ≠ []) (s : State α) : (c.test s).1 = false := by
  rw [test, if_neg (mt List.isEmpty_iff.1 h)]

theorem Varies.complete (h : c.Varies) : c.missing = [] := by
  obtain ⟨⟨s, hs⟩, -⟩ := h
  by_contra hmissing
  rw [test_of_incomplete hmissing] at hs
  cases hs

/-- What is asked of something that states can say anything of. -/
theorem varies_of_surjective {β : Type} {read : State α → β} (hread : read.Surjective) {p : β → Bool}
    (hmissing : c.missing = []) (hholds : ∀ s, c.holds s = p (read s)) :
    c.Varies ↔ (∃ x, p x = true) ∧ ∃ x, p x = false := by
  unfold Varies
  simp only [test_of_complete hmissing, hholds]
  rw [hread.exists (p := fun x => p x = true), hread.exists (p := fun x => p x = false)]

omit [Number α] in
theorem quantity_surjective (id : String) : (fun s : State α => s.quantity id).Surjective := fun n =>
  ⟨{ currentNode := "", inventory := [(id, n)] }, by simp [State.quantity, Table.get?_cons]⟩

theorem currency_surjective (id : String) : (fun s : State α => s.currency id).Surjective := fun x =>
  ⟨{ currentNode := "", currencies := [(id, x)] }, by simp [State.currency, Table.get?_cons]⟩

theorem stat_surjective (id : String) : (fun s : State α => s.stat id).Surjective := fun x =>
  ⟨{ currentNode := "", stats := [(id, x)] }, by simp [State.stat, Table.get?_cons]⟩

omit [Number α] in
theorem flag_surjective (name : String) : (fun s : State α => s.flag name).Surjective := fun v =>
  ⟨{ currentNode := "", flags := [(name, v)] }, by simp [State.flag, Table.get?_cons]⟩

omit [Number α] in
theorem isSolved_surjective (id : String) : (fun s : State α => s.isSolved id).Surjective := fun v =>
  ⟨{ currentNode := "", puzzles := [(id, { solved := v })] }, by
    simp [State.isSolved, State.progress, Table.get?_cons]⟩

omit [Number α] in
theorem hasVisited_surjective (id : String) : (fun s : State α => s.hasVisited id).Surjective := fun v =>
  ⟨{ currentNode := "", visited := if v then [id] else [] }, by cases v <;> simp [State.hasVisited]⟩

/-- A condition that misses no part takes both values just if the amounts that it compares with split amounts. -/
theorem varies_iff_splits (h : c.missing = []) : c.Varies ↔ c.Splits := by
  cases c with
  | hasItem item quantity =>
    cases item <;> cases quantity <;> try exact absurd h (List.cons_ne_nil _ _)
    next item n =>
    refine (varies_of_surjective (p := fun m => n ≤ m) (quantity_surjective item) h fun _ => rfl).trans
      (iff_of_true ⟨⟨n, ?_⟩, n - 1, ?_⟩ trivial) <;> simp
  | inventoryLt item quantity =>
    cases item <;> cases quantity <;> try exact absurd h (List.cons_ne_nil _ _)
    next item n =>
    refine (varies_of_surjective (p := fun m => m < n) (quantity_surjective item) h fun _ => rfl).trans
      (iff_of_true ⟨⟨n - 1, ?_⟩, n, ?_⟩ trivial) <;> simp
  | currencyGte currency value =>
    cases currency <;> cases value <;> try exact absurd h (List.cons_ne_nil _ _)
    exact varies_of_surjective (currency_surjective _) h fun _ => rfl
  | currencyLt currency value =>
    cases currency <;> cases value <;> try exact absurd h (List.cons_ne_nil _ _)
    exact varies_of_surjective (currency_surjective _) h fun _ => rfl
  | statGte stat value =>
    cases stat <;> cases value <;> try exact absurd h (List.cons_ne_nil _ _)
    exact varies_of_surjective (stat_surjective _) h fun _ => rfl
  | statBetween stat low high =>
    cases stat <;> cases low <;> cases high <;> try exact absurd h (List.cons_ne_nil _ _)
    exact varies_of_surjective (stat_surjective _) h fun _ => rfl
  | flagIs flag value =>
    cases flag <;> cases value <;> try exact absurd h (List.cons_ne_nil _ _)
    next flag v =>
    refine (varies_of_surjective (p := fun w => w = v) (flag_surjective flag) h fun _ => rfl).trans
      (iff_of_true ⟨⟨v, ?_⟩, !v, ?_⟩ trivial) <;> simp
  | puzzleSolved puzzle =>
    cases puzzle <;> try exact absurd h (List.cons_ne_nil _ _)
    exact (varies_of_surjective (p := id) (isSolved_surjective _) h fun _ => rfl).trans
      (iff_of_true ⟨⟨true, rfl⟩, false, rfl⟩ trivial)
  | visitedNode node =>
    cases node <;> try exact absurd h (List.cons_ne_nil _ _)
    exact (varies_of_surjective (p := id) (hasVisited_surjective _) h fun _ => rfl).trans
      (iff_of_true ⟨⟨true, rfl⟩, false, rfl⟩ trivial)

/-- A condition takes both values just if it misses no part and the amounts that it compares with split amounts. -/
theorem varies_iff : c.Varies ↔ c.missing = [] ∧ c.Splits := by
  refine ⟨fun hvaries => ⟨hvaries.complete, (varies_iff_splits hvaries.complete).1 hvaries⟩, ?_⟩
  exact fun ⟨hmissing, hsplits⟩ => (varies_iff_splits hmissing).2 hsplits

end Condition

namespace Requirement

variable [Number α] {s t : State α} {c : Condition α} {r part : Requirement α}
  {parts before after : List (Requirement α)} {k : Nat}

/-! ## Conditions in composites -/

omit [Number α] in
theorem conditionsOfAll_append (ps qs : List (Requirement α)) :
    conditionsOfAll (ps ++ qs) = conditionsOfAll ps ++ conditionsOfAll qs := by
  induction ps with
  | nil => rfl
  | cons p rest ih => rw [List.cons_append, conditionsOfAll, conditionsOfAll, ih, List.append_assoc]

omit [Number α] in
theorem conditionsOfAll_eq (ps : List (Requirement α)) : conditionsOfAll ps = ps.flatMap conditions := by
  induction ps with
  | nil => rfl
  | cons p rest ih => rw [conditionsOfAll, List.flatMap_cons, ih]

/-- A conjunction is decided by a part that is false, a disjunction by one that is true. -/
inductive DecidedBy : Bool → (List (Requirement α) → Requirement α) → Prop
  | allOf : DecidedBy false .allOf
  | anyOf : DecidedBy true .anyOf

variable {b : Bool} {join : List (Requirement α) → Requirement α}

omit [Number α] in
theorem DecidedBy.conditions (h : DecidedBy b join) (parts : List (Requirement α)) :
    (join parts).conditions = conditionsOfAll parts := by
  cases h <;> rfl

theorem DecidedBy.evaluate (h : DecidedBy b join) (s : State α) (parts : List (Requirement α)) :
    ((join parts).evaluate s).1 = b ↔ ∃ part ∈ parts, (part.evaluate s).1 = b := by
  cases h with
  | allOf =>
    rw [Requirement.evaluate, evaluateAll_eq, List.all_eq_false]
    simp only [Bool.not_eq_true]
  | anyOf =>
    rw [Requirement.evaluate, evaluateAny_eq, List.any_eq_true]

/-- In the expression `r` the condition with the number `k` is `c`.  Beside it, on the way down to it, stand the
parts `beside`, each with the value by which it decides. -/
inductive Descent : Requirement α → Nat → Condition α → List (Bool × Requirement α) → Prop
  | condition (c : Condition α) : Descent (.condition c) 0 c []
  | not {part : Requirement α} {k : Nat} {c : Condition α} {beside : List (Bool × Requirement α)} :
    Descent part k c beside → Descent (.not part) k c beside
  | join {b : Bool} {join : List (Requirement α) → Requirement α} {before after : List (Requirement α)}
    {part : Requirement α} {k : Nat} {c : Condition α} {beside : List (Bool × Requirement α)} :
    DecidedBy b join → Descent part k c beside →
    Descent (join (before ++ part :: after)) ((conditionsOfAll before).length + k) c
      ((before ++ after).map (fun p => (b, p)) ++ beside)

variable {beside : List (Bool × Requirement α)}

omit [Number α] in
/-- Among the conditions of some parts, each one is in one of the parts. -/
theorem exists_part (h : (conditionsOfAll parts)[k]? = some c) : ∃ before part after j,
    parts = before ++ part :: after ∧ k = (conditionsOfAll before).length + j ∧ part.conditions[j]? = some c := by
  induction parts generalizing k with
  | nil => cases h
  | cons part rest ih =>
    rw [conditionsOfAll, List.getElem?_append] at h
    split at h
    · exact ⟨[], part, rest, k, rfl, (Nat.zero_add k).symm, h⟩
    · obtain ⟨before, part', after, j, rfl, hj, hc⟩ := ih h
      refine ⟨part :: before, part', after, j, rfl, ?_, hc⟩
      rw [conditionsOfAll, List.length_append]
      omega

omit [Number α] in
/-- There is a way down to each condition. -/
theorem exists_descent (h : r.conditions[k]? = some c) : ∃ beside, Descent r k c beside := by
  have hjoin {b : Bool} {join : List (Requirement α) → Requirement α} (hjoin : DecidedBy b join)
      {parts : List (Requirement α)}
      (ih : ∀ part ∈ parts, ∀ {k}, part.conditions[k]? = some c → ∃ beside, Descent part k c beside) {k : Nat}
      (h : (conditionsOfAll parts)[k]? = some c) : ∃ beside, Descent (join parts) k c beside := by
    obtain ⟨before, part, after, j, rfl, rfl, hc⟩ := exists_part h
    obtain ⟨beside, hdescent⟩ := ih part (List.mem_append_right _ List.mem_cons_self) hc
    exact ⟨_, .join hjoin hdescent⟩
  induction r using Requirement.nested generalizing k with
  | condition c' =>
    obtain ⟨rfl, rfl⟩ : k = 0 ∧ c' = c := by simpa [conditions, List.getElem?_singleton] using h
    exact ⟨[], .condition c'⟩
  | not part ih =>
    obtain ⟨beside, hdescent⟩ := ih h
    exact ⟨beside, .not hdescent⟩
  | allOf parts ih => exact hjoin .allOf ih h
  | anyOf parts ih => exact hjoin .anyOf ih h

omit [Number α] in
/-- The conditions are the one that the way leads to, and those of the parts beside. -/
theorem Descent.perm (h : Descent r k c beside) :
    r.conditions.Perm (c :: beside.flatMap fun entry => entry.2.conditions) := by
  induction h with
  | condition c => exact .refl _
  | not _ ih => exact ih
  | @join b join before after part k c beside hjoin _ ih =>
    have hparts : ((before ++ after).map fun p => (b, p)).flatMap (fun entry => entry.2.conditions) =
        conditionsOfAll before ++ conditionsOfAll after := by
      rw [List.flatMap_map, ← conditionsOfAll_append, conditionsOfAll_eq]
    rw [hjoin.conditions, conditionsOfAll_append, conditionsOfAll, List.flatMap_append, hparts]
    -- The part of the way comes to the front, and its way is then followed by all parts around it.
    refine (List.perm_append_comm_assoc ..).trans ((ih.append_right _).trans ?_)
    exact .cons _ List.perm_append_comm

/-! ## Open ways -/

/-- In a state all parts beside a way leave the value of the whole open. -/
def Open (s : State α) (beside : List (Bool × Requirement α)) : Prop :=
  ∀ entry ∈ beside, (entry.2.evaluate s).1 = !entry.1

theorem open_append {beside beside' : List (Bool × Requirement α)} :
    Open s (beside ++ beside') ↔ Open s beside ∧ Open s beside' := List.forall_mem_append

theorem open_map {parts : List (Requirement α)} :
    Open s (parts.map fun p => (b, p)) ↔ ∀ p ∈ parts, (p.evaluate s).1 = !b := List.forall_mem_map

/-- Where no part beside it decides, a composite is decided by a part just if that part decides. -/
theorem DecidedBy.evaluate_around (h : DecidedBy b join) (hbeside : ∀ p ∈ before ++ after, (p.evaluate s).1 = !b) :
    ((join (before ++ part :: after)).evaluate s).1 = b ↔ (part.evaluate s).1 = b := by
  rw [h.evaluate]
  constructor
  · rintro ⟨p, hp, hvalue⟩
    rcases List.mem_cons.1 (List.perm_middle.mem_iff.1 hp) with rfl | hp
    · exact hvalue
    · rw [hbeside p hp] at hvalue
      exact absurd hvalue (Bool.not_ne_self b)
  · exact fun hvalue => ⟨part, List.mem_append_right _ List.mem_cons_self, hvalue⟩

theorem eq_iff_of_eq_iff {x y x' y' : Bool} (hx : x = b ↔ x' = b) (hy : y = b ↔ y' = b) : x = y ↔ x' = y' := by
  revert x y x' y' b
  decide

/-- On an open way the value of the whole goes with that of the condition. -/
theorem Descent.evaluate_eq_iff (h : Descent r k c beside) (hs : Open s beside) (ht : Open t beside) :
    (r.evaluate s).1 = (r.evaluate t).1 ↔ (c.test s).1 = (c.test t).1 := by
  induction h with
  | condition c => rfl
  | not _ ih =>
    rw [evaluate, evaluate]
    exact Bool.not_inj_iff.trans (ih hs ht)
  | join hjoin _ ih =>
    rw [open_append, open_map] at hs ht
    rw [← ih hs.2 ht.2]
    exact eq_iff_of_eq_iff (hjoin.evaluate_around hs.1) (hjoin.evaluate_around ht.1)

/-- Where the parts beside a way do not change their values and the whole does, the way is open. -/
theorem Descent.open_of_ne (h : Descent r k c beside)
    (hsame : ∀ entry ∈ beside, (entry.2.evaluate s).1 = (entry.2.evaluate t).1)
    (hne : (r.evaluate s).1 ≠ (r.evaluate t).1) : Open s beside := by
  induction h with
  | condition c => exact List.forall_mem_nil _
  | not _ ih =>
    rw [evaluate, evaluate] at hne
    exact ih hsame fun heq => hne (congrArg Bool.not heq)
  | @join b join before after part k c beside hjoin _ ih =>
    obtain ⟨hparts, hrest⟩ := List.forall_mem_append.1 hsame
    rw [List.forall_mem_map] at hparts
    -- A part beside that decides in one state does so in both.
    have hopen : ∀ p ∈ before ++ after, (p.evaluate s).1 = !b := by
      intro p hp
      refine Bool.eq_not.2 fun hvalue => hne ?_
      have hmem : p ∈ before ++ part :: after := List.perm_middle.mem_iff.2 (List.mem_cons_of_mem _ hp)
      exact ((hjoin.evaluate s _).2 ⟨p, hmem, hvalue⟩).trans
        ((hjoin.evaluate t _).2 ⟨p, hmem, (hparts p hp).symm.trans hvalue⟩).symm
    have hopen' : ∀ p ∈ before ++ after, (p.evaluate t).1 = !b := fun p hp =>
      (hparts p hp).symm.trans (hopen p hp)
    refine open_append.2 ⟨open_map.2 hopen, ih hrest fun heq => hne ?_⟩
    exact (eq_iff_of_eq_iff (hjoin.evaluate_around hopen) (hjoin.evaluate_around hopen')).2 heq

/-! ## Conditions that matter -/

/-- What the conditions of an expression read. -/
def subjects (r : Requirement α) : List Subject := r.conditions.filterMap Condition.subject?

/-- An expression looks at nothing but the subjects of its conditions. -/
theorem evaluate_congr_subjects (h : ∀ x ∈ r.subjects, s.about x = t.about x) : r.evaluate s = r.evaluate t :=
  evaluate_congr fun _ hc => Condition.test_congr fun x hx => h x (List.mem_filterMap.2 ⟨_, hc, hx⟩)

theorem evaluate_splice {xs : List Subject} (h : ∀ x ∈ r.subjects, x ∈ xs) (s t : State α) :
    r.evaluate (.splice xs s t) = r.evaluate s :=
  evaluate_congr_subjects fun x hx => by rw [State.about_splice, if_pos (h x hx)]

theorem evaluate_splice_of_not {xs : List Subject} (h : ∀ x ∈ r.subjects, x ∉ xs) (s t : State α) :
    r.evaluate (.splice xs s t) = r.evaluate t :=
  evaluate_congr_subjects fun x hx => by rw [State.about_splice, if_neg (h x hx)]

/-- What the parts beside a way do not read may be taken from any other state. -/
theorem Open.splice {xs : List Subject} (hs : Open s beside) (h : ∀ entry ∈ beside, ∀ x ∈ entry.2.subjects, x ∉ xs)
    (w : State α) : Open (.splice xs w s) beside := fun entry hentry => by
  rw [evaluate_splice_of_not (h entry hentry)]
  exact hs entry hentry

/-- Two states that say the same of everything but what the condition with the number `k` reads can differ in the
value of the expression. -/
def Influences (r : Requirement α) (k : Nat) : Prop :=
  ∃ c, ∃ s t : State α, r.conditions[k]? = some c ∧ (∀ x, x ∉ c.subject? → s.about x = t.about x) ∧
    (r.evaluate s).1 ≠ (r.evaluate t).1

/-- No part beside a way reads what the condition reads. -/
def Alone (c : Condition α) (beside : List (Bool × Requirement α)) : Prop :=
  ∀ entry ∈ beside, ∀ x ∈ entry.2.subjects, x ∉ c.subject?

omit [Number α] in
theorem Descent.conditions (h : Descent r k c beside) : r.conditions[k]? = some c := by
  induction h with
  | condition c => rfl
  | not _ ih => exact ih
  | join hjoin _ ih =>
    rw [hjoin.conditions, conditionsOfAll_append, conditionsOfAll, List.getElem?_append_right (Nat.le_add_right ..),
      Nat.add_sub_cancel_left, List.getElem?_append_left (List.getElem?_eq_some_iff.1 ih).1, ih]

/-- A condition with a subject of its own matters just where it takes both values and its way is open in some
state. -/
theorem Descent.influences_iff (h : Descent r k c beside) (halone : Alone c beside) :
    r.Influences k ↔ c.Varies ∧ ∃ s : State α, Open s beside := by
  constructor
  · rintro ⟨c', s, t, hc, hsame, hne⟩
    obtain rfl : c = c' := Option.some.inj (h.conditions.symm.trans hc)
    have hparts : ∀ entry ∈ beside, (entry.2.evaluate s).1 = (entry.2.evaluate t).1 := fun entry hentry => by
      rw [evaluate_congr_subjects fun x hx => hsame x (halone entry hentry x hx)]
    have hs := h.open_of_ne hparts hne
    have ht : Open t beside := fun entry hentry => (hparts entry hentry).symm.trans (hs entry hentry)
    refine ⟨?_, s, hs⟩
    have hvalue := mt (h.evaluate_eq_iff hs ht).2 hne
    cases hcs : (c.test s).1 <;> cases hct : (c.test t).1
    · exact absurd (hcs.trans hct.symm) hvalue
    · exact ⟨⟨t, hct⟩, s, hcs⟩
    · exact ⟨⟨s, hcs⟩, t, hct⟩
    · exact absurd (hcs.trans hct.symm) hvalue
  · rintro ⟨⟨⟨u, hu⟩, v, hv⟩, s, hs⟩
    -- What the condition reads is taken from a state where it is true, and from one where it is false.
    have hopen := hs.splice fun entry hentry x hx hmem => halone entry hentry x hx (Option.mem_toList.1 hmem)
    have htest (w : State α) : c.test (.splice c.subject?.toList w s) = c.test w :=
      Condition.test_congr fun x hx => by rw [State.about_splice, if_pos (Option.mem_toList.2 hx)]
    refine ⟨c, .splice c.subject?.toList u s, .splice c.subject?.toList v s, h.conditions, fun x hx => ?_, ?_⟩
    · have hmem : x ∉ c.subject?.toList := fun hmem => hx (Option.mem_toList.1 hmem)
      rw [State.about_splice, State.about_splice, if_neg hmem, if_neg hmem]
    · rw [Ne, h.evaluate_eq_iff (hopen u) (hopen v), htest, htest, hu, hv]
      exact Bool.noConfusion

/-! ## Conditions on different subjects -/

/-- An expression takes a value in some state. -/
def Takes (r : Requirement α) (b : Bool) : Prop := ∃ s : State α, (r.evaluate s).1 = b

/-- No two conditions read the same. -/
def Apart (r : Requirement α) : Prop := r.subjects.Nodup

omit [Number α] in
theorem Descent.subjects (h : Descent r k c beside) :
    r.subjects.Perm (c.subject?.toList ++ beside.flatMap fun entry => entry.2.subjects) := by
  have hperm := h.perm.filterMap Condition.subject?
  rw [List.filterMap_cons, List.filterMap_flatMap] at hperm
  cases hc : c.subject? with
  | none => rwa [hc] at hperm
  | some x => rwa [hc] at hperm

omit [Number α] in
theorem Descent.apart (h : Descent r k c beside) (hapart : r.Apart) :
    Alone c beside ∧ (beside.flatMap fun entry => entry.2.subjects).Nodup := by
  obtain ⟨-, hbeside, hne⟩ := List.nodup_append.1 (h.subjects.nodup_iff.1 hapart)
  refine ⟨fun entry hentry x hx hc => ?_, hbeside⟩
  exact hne x (Option.mem_toList.2 hc) x (List.mem_flatMap.2 ⟨entry, hentry, hx⟩) rfl

/-- Parts with different subjects take values together just where each of them takes its own. -/
theorem exists_open_iff (h : (beside.flatMap fun entry => entry.2.subjects).Nodup) :
    (∃ s : State α, Open s beside) ↔ ∀ entry ∈ beside, entry.2.Takes !entry.1 := by
  constructor
  · rintro ⟨s, hs⟩ entry hentry
    exact ⟨s, hs entry hentry⟩
  · intro htakes
    induction beside with
    | nil => exact ⟨{ currentNode := "" }, List.forall_mem_nil _⟩
    | cons entry rest ih =>
      rw [List.flatMap_cons, List.nodup_append] at h
      obtain ⟨⟨s, hs⟩, hrest⟩ := List.forall_mem_cons.1 htakes
      obtain ⟨t, ht⟩ := ih h.2.1 hrest
      refine ⟨.splice entry.2.subjects s t, List.forall_mem_cons.2 ⟨?_, Open.splice ht ?_ s⟩⟩
      · rw [evaluate_splice fun x hx => hx, hs]
      · intro other hother x hx hmem
        exact h.2.2 x hmem x (List.mem_flatMap.2 ⟨other, hother, hx⟩) rfl

/-- Where no two conditions read the same, a condition matters just where it takes both values and each part beside
its way leaves the value open in some state. -/
theorem Descent.influences_iff_takes (h : Descent r k c beside) (hapart : r.Apart) :
    r.Influences k ↔ c.Varies ∧ ∀ entry ∈ beside, entry.2.Takes !entry.1 := by
  obtain ⟨halone, hbeside⟩ := h.apart hapart
  rw [h.influences_iff halone, exists_open_iff hbeside]

/-- No conjunction or disjunction inside is empty. -/
def Filled : Requirement α → Prop
  | .allOf parts | .anyOf parts => parts ≠ [] ∧ ∀ part ∈ parts, part.Filled
  | .not part => part.Filled
  | .condition _ => True

omit [Number α] in
theorem DecidedBy.filled (h : DecidedBy b join) :
    (join parts).Filled ↔ parts ≠ [] ∧ ∀ part ∈ parts, part.Filled := by
  cases h <;> rw [Filled]

/-- No composite is empty, no two conditions read the same, and each condition takes both values. -/
structure Free (r : Requirement α) : Prop where
  filled : r.Filled
  apart : r.Apart
  varies : ∀ c ∈ r.conditions, c.Varies

theorem Free.of_not (h : Free (.not part)) : Free part where
  filled := by
    have hfilled := h.filled
    rwa [Filled] at hfilled
  apart := h.apart
  varies := h.varies

omit [Number α] in
theorem DecidedBy.subjects (h : DecidedBy b join) : (join parts).subjects = parts.flatMap Requirement.subjects := by
  rw [Requirement.subjects, h.conditions, conditionsOfAll_eq, List.filterMap_flatMap]
  rfl

theorem Free.of_mem (h : Free (join parts)) (hjoin : DecidedBy b join) {part : Requirement α} (hmem : part ∈ parts) :
    Free part where
  filled := (hjoin.filled.1 h.filled).2 part hmem
  apart := by
    have hapart := h.apart
    rw [Apart, hjoin.subjects, List.nodup_flatMap] at hapart
    exact hapart.1 part hmem
  varies c hc := h.varies c (by
    rw [hjoin.conditions, conditionsOfAll_eq]
    exact List.mem_flatMap.2 ⟨part, hmem, hc⟩)

/-- A composite of free parts takes the value that decides where one part does, and the other where all parts do. -/
theorem DecidedBy.takes (hjoin : DecidedBy b join) (h : Free (join parts))
    (ih : ∀ part ∈ parts, Free part → ∀ v, part.Takes v) (v : Bool) : (join parts).Takes v := by
  have htakes : ∀ part ∈ parts, ∀ v, part.Takes v := fun part hmem => ih part hmem (h.of_mem hjoin hmem)
  rcases Bool.eq_or_eq_not v b with rfl | rfl
  · obtain ⟨part, hmem⟩ := List.exists_mem_of_ne_nil parts (hjoin.filled.1 h.filled).1
    obtain ⟨s, hs⟩ := htakes part hmem v
    exact ⟨s, (hjoin.evaluate s parts).2 ⟨part, hmem, hs⟩⟩
  · have hnodup : ((parts.map fun p => (b, p)).flatMap fun entry => entry.2.subjects).Nodup := by
      rw [List.flatMap_map, ← hjoin.subjects]
      exact h.apart
    obtain ⟨s, hs⟩ := (exists_open_iff hnodup).2 (List.forall_mem_map.2 fun part hmem => htakes part hmem !b)
    refine ⟨s, Bool.eq_not.2 fun hvalue => ?_⟩
    obtain ⟨part, hmem, hpart⟩ := (hjoin.evaluate s parts).1 hvalue
    exact Bool.eq_not.1 (open_map.1 hs part hmem) hpart

/-- A free expression takes both values. -/
theorem Free.takes (h : Free r) (v : Bool) : r.Takes v := by
  induction r using Requirement.nested generalizing v with
  | condition c =>
    obtain ⟨htrue, hfalse⟩ := h.varies c List.mem_cons_self
    cases v
    · exact hfalse
    · exact htrue
  | not part ih =>
    obtain ⟨s, hs⟩ := ih h.of_not !v
    exact ⟨s, Bool.not_eq_eq_eq_not.2 hs⟩
  | allOf parts ih => exact DecidedBy.allOf.takes h ih v
  | anyOf parts ih => exact DecidedBy.anyOf.takes h ih v

theorem Descent.free (h : Descent r k c beside) (hfree : Free r) : ∀ entry ∈ beside, Free entry.2 := by
  induction h with
  | condition c => exact List.forall_mem_nil _
  | not _ ih => exact ih hfree.of_not
  | join hjoin _ ih =>
    refine List.forall_mem_append.2 ⟨List.forall_mem_map.2 fun p hp => ?_, ih (hfree.of_mem hjoin ?_)⟩
    · exact hfree.of_mem hjoin (List.perm_middle.mem_iff.2 (List.mem_cons_of_mem _ hp))
    · exact List.mem_append_right _ List.mem_cons_self

/-- All conditions of a free expression matter. -/
theorem Free.influences (h : Free r) (hk : k < r.conditions.length) : r.Influences k := by
  obtain ⟨beside, hdescent⟩ := exists_descent (List.getElem?_eq_getElem hk)
  refine (hdescent.influences_iff_takes h.apart).2 ⟨h.varies _ (List.getElem_mem hk), fun entry hentry => ?_⟩
  exact (hdescent.free h entry hentry).takes _

end Requirement

end StoryRules
