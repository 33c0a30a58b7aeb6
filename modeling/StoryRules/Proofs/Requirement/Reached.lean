import StoryRules.Proofs.Requirement.Meaning

/-!
# Where requirements are looked at

A place in an expression is a path: at each composite the number of the part that it goes on in.  Evaluation comes
to places in their lexicographic order, and warns exactly of the incomplete conditions that it comes to.

    evaluate_reading : Reading s r
-/

namespace StoryRules.Requirement

variable {s : State Amount}

/-- Evaluation from left to right and no further than needed comes to the condition `c` at a place: all parts of
a conjunction before it are met, and no part of a disjunction before it is. -/
inductive Reaches (s : State Amount) : Requirement Amount → List Nat → Condition Amount → Prop
  | condition (c : Condition Amount) : Reaches s (.condition c) [] c
  | not {part : Requirement Amount} {path : List Nat} {c : Condition Amount} :
    Reaches s part path c → Reaches s (.not part) (0 :: path) c
  | allOf {parts : List (Requirement Amount)} {i : Nat} {part : Requirement Amount} {path : List Nat}
    {c : Condition Amount} : parts[i]? = some part → (∀ before ∈ parts.take i, before.IsMet s) →
    Reaches s part path c → Reaches s (.allOf parts) (i :: path) c
  | anyOf {parts : List (Requirement Amount)} {i : Nat} {part : Requirement Amount} {path : List Nat}
    {c : Condition Amount} : parts[i]? = some part → (∀ before ∈ parts.take i, ¬ before.IsMet s) →
    Reaches s part path c → Reaches s (.anyOf parts) (i :: path) c

/-- A place with the condition that stands there. -/
abbrev Stop : Type := List Nat × Condition Amount

/-- The warnings of the incomplete conditions among some places, one for each. -/
def warningsOf (stops : List Stop) : List String :=
  (stops.filter fun stop => !stop.2.missing.isEmpty).map fun stop => stop.2.warning

theorem warningsOf_append (stops stops' : List Stop) :
    warningsOf (stops ++ stops') = warningsOf stops ++ warningsOf stops' := by
  unfold warningsOf
  rw [List.filter_append, List.map_append]

theorem warningsOf_descend (k : Nat) (stops : List Stop) :
    warningsOf (stops.map fun stop => (k :: stop.1, stop.2)) = warningsOf stops := by
  unfold warningsOf
  rw [List.filter_map, List.map_map]
  rfl

/-- The places that are come to by `come`, each once and in order, with the warnings that they leave. -/
structure Walk (come : List Nat → Condition Amount → Prop) (warnings : List String) (stops : List Stop) : Prop where
  ordered : (stops.map Prod.fst).Pairwise (· < ·)
  mem_iff : ∀ path c, (path, c) ∈ stops ↔ come path c
  warned : warnings = warningsOf stops

theorem Walk.congr {come come' : List Nat → Condition Amount → Prop} {warnings : List String} {stops : List Stop}
    (h : Walk come warnings stops) (hcome : ∀ path c, come path c ↔ come' path c) : Walk come' warnings stops :=
  { h with mem_iff := fun path c => (h.mem_iff path c).trans (hcome path c) }

theorem Walk.empty {come : List Nat → Condition Amount → Prop} (h : ∀ path c, ¬ come path c) : Walk come [] [] where
  ordered := .nil
  mem_iff path c := iff_of_false List.not_mem_nil (h path c)
  warned := rfl

/-- The walk through a part is the walk to the part, one level down. -/
theorem Walk.descend {come : List Nat → Condition Amount → Prop} {warnings : List String} {stops : List Stop}
    (h : Walk come warnings stops) (k : Nat) :
    Walk (fun path c => ∃ tail, path = k :: tail ∧ come tail c) warnings
      (stops.map fun stop => (k :: stop.1, stop.2)) where
  ordered := by
    have hordered := h.ordered
    rw [List.pairwise_map] at hordered
    rw [List.map_map, List.pairwise_map]
    exact hordered.imp fun hlt => List.cons_lt_cons_iff.2 (.inr ⟨rfl, hlt⟩)
  mem_iff path c := by
    simp only [List.mem_map, Prod.mk.injEq, Prod.exists, ← h.mem_iff]
    constructor
    · rintro ⟨tail, c', hmem, rfl, rfl⟩
      exact ⟨tail, rfl, hmem⟩
    · rintro ⟨tail, rfl, hmem⟩
      exact ⟨tail, c, hmem, rfl, rfl⟩
  warned := h.warned.trans (warningsOf_descend k stops).symm

/-- Two walks one after the other, where the second stays behind the first. -/
theorem Walk.append {come come' : List Nat → Condition Amount → Prop} {warnings warnings' : List String}
    {stops stops' : List Stop} (h : Walk come warnings stops) (h' : Walk come' warnings' stops')
    (hlt : ∀ path c path' c', come path c → come' path' c' → path < path') :
    Walk (fun path c => come path c ∨ come' path c) (warnings ++ warnings') (stops ++ stops') where
  ordered := by
    rw [List.map_append, List.pairwise_append]
    refine ⟨h.ordered, h'.ordered, fun path hpath path' hpath' => ?_⟩
    obtain ⟨⟨_, c⟩, hmem, rfl⟩ := List.mem_map.1 hpath
    obtain ⟨⟨_, c'⟩, hmem', rfl⟩ := List.mem_map.1 hpath'
    exact hlt _ c _ c' ((h.mem_iff _ _).1 hmem) ((h'.mem_iff _ _).1 hmem')
  mem_iff path c := by rw [List.mem_append, h.mem_iff, h'.mem_iff]
  warned := by rw [h.warned, h'.warned, warningsOf_append]

/-! ## Parts in a row -/

/-- A place in one of some parts, the first of which has the number `k`, where all parts before that one have the
value `go`. -/
def ReachesIn (s : State Amount) (go : Bool) (k : Nat) (parts : List (Requirement Amount)) (path : List Nat)
    (c : Condition Amount) : Prop :=
  ∃ i part tail, parts[i]? = some part ∧ (∀ before ∈ parts.take i, (before.evaluate s).1 = go) ∧
    path = (k + i) :: tail ∧ Reaches s part tail c

theorem reachesIn_cons {go : Bool} {k : Nat} {part : Requirement Amount} {rest : List (Requirement Amount)}
    {path : List Nat} {c : Condition Amount} : ReachesIn s go k (part :: rest) path c ↔
    (∃ tail, path = k :: tail ∧ Reaches s part tail c) ∨
      (part.evaluate s).1 = go ∧ ReachesIn s go (k + 1) rest path c := by
  constructor
  · rintro ⟨i, part', tail, hpart, hbefore, rfl, hreach⟩
    cases i with
    | zero =>
      obtain rfl := Option.some.inj hpart
      exact .inl ⟨tail, rfl, hreach⟩
    | succ i =>
      rw [List.take_succ_cons, List.forall_mem_cons] at hbefore
      refine .inr ⟨hbefore.1, i, part', tail, hpart, hbefore.2, ?_, hreach⟩
      rw [Nat.add_assoc, Nat.add_comm 1]
  · rintro (⟨tail, rfl, hreach⟩ | ⟨hpart, i, part', tail, hpart', hbefore, rfl, hreach⟩)
    · exact ⟨0, part, tail, rfl, List.forall_mem_nil _, rfl, hreach⟩
    · refine ⟨i + 1, part', tail, hpart', ?_, ?_, hreach⟩
      · rw [List.take_succ_cons]
        exact List.forall_mem_cons.2 ⟨hpart, hbefore⟩
      · rw [Nat.add_assoc, Nat.add_comm 1]

/-- Each part is walked through for as long as the parts before it have the value `go`. -/
theorem exists_walk_parts (go : Bool) {parts : List (Requirement Amount)}
    (h : ∀ part ∈ parts, ∃ stops, Walk (Reaches s part) (part.evaluate s).2 stops) (k : Nat) :
    ∃ stops, Walk (ReachesIn s go k parts) (warningsWhile s go parts) stops := by
  induction parts generalizing k with
  | nil => exact ⟨[], Walk.empty fun path c => by rintro ⟨i, part, tail, hpart, -⟩; cases hpart⟩
  | cons part rest ih =>
    obtain ⟨hpart, hrest⟩ := List.forall_mem_cons.1 h
    obtain ⟨first, hfirst⟩ := hpart
    have hhead := hfirst.descend k
    unfold warningsWhile
    split
    · next hgo =>
      obtain ⟨later, hlater⟩ := ih hrest (k + 1)
      refine ⟨_, (hhead.append hlater ?_).congr fun path c => ?_⟩
      · rintro _ c _ c' ⟨tail, rfl, -⟩ ⟨i, part', tail', -, -, rfl, -⟩
        exact List.cons_lt_cons_iff.2 (.inl (by omega))
      · rw [reachesIn_cons, and_iff_right hgo]
    · next hstop =>
      rw [List.append_nil]
      refine ⟨_, hhead.congr fun path c => ?_⟩
      rw [reachesIn_cons, or_iff_left fun hgo => hstop hgo.1]

theorem reaches_allOf {parts : List (Requirement Amount)} {path : List Nat} {c : Condition Amount} :
    ReachesIn s true 0 parts path c ↔ Reaches s (.allOf parts) path c := by
  simp only [ReachesIn, evaluate_isMet, Nat.zero_add]
  constructor
  · rintro ⟨i, part, tail, hpart, hbefore, rfl, hreach⟩
    exact .allOf hpart hbefore hreach
  · intro h
    cases h with
    | allOf hpart hbefore hreach => exact ⟨_, _, _, hpart, hbefore, rfl, hreach⟩

theorem reaches_anyOf {parts : List (Requirement Amount)} {path : List Nat} {c : Condition Amount} :
    ReachesIn s false 0 parts path c ↔ Reaches s (.anyOf parts) path c := by
  simp only [ReachesIn, ← Bool.not_eq_true, evaluate_isMet, Nat.zero_add]
  constructor
  · rintro ⟨i, part, tail, hpart, hbefore, rfl, hreach⟩
    exact .anyOf hpart hbefore hreach
  · intro h
    cases h with
    | anyOf hpart hbefore hreach => exact ⟨_, _, _, hpart, hbefore, rfl, hreach⟩

/-! ## Expressions -/

theorem walk_condition (s : State Amount) (c : Condition Amount) :
    Walk (Reaches s (.condition c)) (c.test s).2 [([], c)] where
  ordered := List.pairwise_singleton _ _
  mem_iff path c' := by
    rw [List.mem_singleton]
    constructor
    · rintro ⟨⟩
      exact .condition c
    · rintro ⟨⟩
      rfl
  warned := by
    unfold Condition.test warningsOf
    cases h : c.missing.isEmpty <;> simp [h]

/-- Evaluating an expression is a walk to the places that it comes to, with the warnings that they leave. -/
theorem exists_walk (s : State Amount) (r : Requirement Amount) :
    ∃ stops, Walk (Reaches s r) (r.evaluate s).2 stops := by
  induction r using Requirement.nested with
  | condition c =>
    rw [evaluate]
    exact ⟨_, walk_condition s c⟩
  | not part ih =>
    obtain ⟨stops, hstops⟩ := ih
    rw [evaluate]
    refine ⟨_, (hstops.descend 0).congr fun path c => ?_⟩
    constructor
    · rintro ⟨tail, rfl, hreach⟩
      exact .not hreach
    · intro h
      cases h with
      | not hreach => exact ⟨_, rfl, hreach⟩
  | allOf parts ih =>
    obtain ⟨stops, hstops⟩ := exists_walk_parts true ih 0
    rw [evaluate, evaluateAll_eq]
    exact ⟨stops, hstops.congr fun _ _ => reaches_allOf⟩
  | anyOf parts ih =>
    obtain ⟨stops, hstops⟩ := exists_walk_parts false ih 0
    rw [evaluate, evaluateAny_eq]
    exact ⟨stops, hstops.congr fun _ _ => reaches_anyOf⟩

/-- What evaluation comes to is written in the expression. -/
theorem Reaches.mem_conditions {r : Requirement Amount} {path : List Nat} {c : Condition Amount}
    (h : Reaches s r path c) : c ∈ r.conditions := by
  induction h with
  | condition c => exact List.mem_singleton_self c
  | not _ ih => exact ih
  | allOf hpart _ _ ih => exact mem_conditionsOfAll.2 ⟨_, List.mem_of_getElem? hpart, ih⟩
  | anyOf hpart _ _ ih => exact mem_conditionsOfAll.2 ⟨_, List.mem_of_getElem? hpart, ih⟩

theorem Walk.quiet {r : Requirement Amount} {warnings : List String} {stops : List Stop}
    (h : Walk (Reaches s r) warnings stops) (hcomplete : ∀ c ∈ r.conditions, c.missing = []) : warnings = [] := by
  rw [h.warned, warningsOf, List.map_eq_nil_iff, List.filter_eq_nil_iff]
  rintro ⟨path, c⟩ hmem
  have hreach := (h.mem_iff path c).1 hmem
  simp [hcomplete c hreach.mem_conditions]

/-! ## The whole -/

/-- What evaluating an optional expression says. -/
structure Reading (s : State Amount) (r : Option (Requirement Amount)) : Prop where
  /-- The value tells whether the expression is met; where there is none, nothing is left to meet. -/
  value : (evaluate? s r).1 = true ↔ ∀ e, r = some e → e.IsMet s
  /-- Parts may stand in any order, more than once, and in composites of their own. -/
  rearranged : ∀ e e', r = some e → Rearranged e e' → (evaluate? s (some e')).1 = (evaluate? s r).1
  /-- There is one warning for each incomplete condition that is come to, in the order of their places. -/
  warned : ∃ stops, Walk (fun path c => ∃ e, r = some e ∧ Reaches s e path c) (evaluate? s r).2 stops
  /-- An expression without incomplete conditions leaves no warning. -/
  quiet : (∀ c ∈ conditions? r, c.missing = []) → (evaluate? s r).2 = []

/-- Evaluation gives the meaning of an expression, and warns of what is incomplete where it looks. -/
theorem evaluate_reading (s : State Amount) (r : Option (Requirement Amount)) : Reading s r := by
  cases r with
  | none => exact {
      value := iff_of_true rfl nofun
      rearranged := nofun
      warned := ⟨[], Walk.empty (by rintro path c ⟨e, ⟨⟩, -⟩)⟩
      quiet := fun _ => rfl }
  | some r =>
    obtain ⟨stops, hstops⟩ := exists_walk s r
    exact {
      value := by
        rw [evaluate?, evaluate_isMet]
        exact ⟨fun h e he => Option.some.inj he ▸ h, fun h => h r rfl⟩
      rearranged := by
        rintro e e' ⟨⟩ h
        exact h.symm.evaluate_eq
      warned := by
        refine ⟨stops, Walk.congr hstops fun path c => ⟨fun h => ⟨r, rfl, h⟩, ?_⟩⟩
        rintro ⟨e, ⟨⟩, h⟩
        exact h
      quiet := hstops.quiet }

end StoryRules.Requirement
