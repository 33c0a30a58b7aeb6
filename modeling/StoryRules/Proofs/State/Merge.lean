import StoryRules.Proofs.State.Given
import StoryRules.Proofs.State.Written

/-!
# Merging is overriding

Updates are merged into the snapshot of a state, which is then restored.  On updates with values of the right types
that comes to what the updates say, key by key, and to what the state said where they are silent.  So merging twice is
merging once what comes of the first updates when the second ones are laid over them.

    s.Savable → U.GivenBy u → s.merge u = .ok (s.updated U)                                             (merge_eq)
-/

namespace StoryRules

variable {α : Type}

namespace Reader

theorem table_eq_ok {β : Type} {read : Reader α β} {fields : Table (Datum α)} {t : Table β} :
    table read (.map fields) = .ok t ↔ Table.Matched (fun d b => read d = .ok b) fields t := by
  unfold table Table.Matched
  induction fields generalizing t with
  | nil =>
    rw [List.forall₂_nil_left_iff]
    exact ⟨fun h => (Checked.ok.inj h).symm, fun h => h ▸ rfl⟩
  | cons entry rest ih =>
    rw [List.forall₂_cons_left_iff]
    dsimp only at ih ⊢
    rw [entriesFrom]
    constructor
    · intro h
      obtain ⟨_, others, ⟨hfirst, hothers⟩, rfl⟩ := Checked.seq_eq_ok.1 h
      obtain ⟨_, hentry, rfl⟩ := Checked.map_eq_ok.1 hfirst
      obtain ⟨b, hb, rfl⟩ := Checked.map_eq_ok.1 hentry
      exact ⟨(entry.1, b), others, ⟨rfl, Checked.under_eq_ok.1 hb⟩, ih.1 hothers, rfl⟩
    · rintro ⟨⟨_, b⟩, others, ⟨rfl, hb⟩, hothers, rfl⟩
      rw [show read entry.2 = .ok b from hb, ih.2 hothers]
      rfl

end Reader

namespace State

variable [Number α]

/-! ## Field by field -/

/-- What a field becomes. -/
def mergedField (name : String) (old update : Datum α) : Except MergeError (Datum α) :=
  if name = "visited" then uniteVisited old update
  else if tableFields.contains name then overlayTable old update
  else .ok update.opened

theorem mergeField_eq (fields : Table (Datum α)) (name : String) (update : Datum α) :
    mergeField fields name update =
      (mergedField name ((fields.get? name).getD .null) update).map (fields.put name) := by
  unfold mergeField mergedField
  dsimp only
  split_ifs
  · cases uniteVisited ((fields.get? name).getD .null) update <;> rfl
  · cases overlayTable ((fields.get? name).getD .null) update <;> rfl
  · rfl

/-- A field that is updated is merged, and any other kept. -/
def Merges (fields u merged : Table (Datum α)) : Prop :=
  ∀ name, match u.get? name with
    | none => merged.get? name = fields.get? name
    | some update => ∃ new, mergedField name ((fields.get? name).getD .null) update = .ok new ∧
      merged.get? name = some new

theorem mergeFields_ok {u : Table (Datum α)} (hkeys : u.keys.Nodup) : ∀ fields : Table (Datum α),
    (∀ name update, u.get? name = some update →
      ∃ new, mergedField name ((fields.get? name).getD .null) update = .ok new) →
    ∃ merged, mergeFields fields u = .ok merged ∧ Merges fields u merged := by
  induction u with
  | nil => exact fun fields _ => ⟨fields, rfl, fun _ => rfl⟩
  | cons entry rest ih =>
    obtain ⟨name, update⟩ := entry
    obtain ⟨hnew, hrest⟩ := List.nodup_cons.1 hkeys
    intro fields h
    obtain ⟨new, hfield⟩ := h name update (by rw [Table.get?_cons, if_pos rfl])
    have hout : ∀ other, name = other → Table.get? rest other = none := by
      rintro _ rfl
      rw [← Option.not_isSome_iff_eq_none, ← Table.has_eq_isSome, Table.has_iff]
      exact hnew
    -- the fields that are merged later are not the one that was merged first
    have hsame : ∀ other, name ≠ other → (fields.put name new).get? other = fields.get? other := fun other hne => by
      rw [Table.get?_put, if_neg hne]
    obtain ⟨merged, hmerged, hmerges⟩ := ih hrest (fields.put name new) fun other later hlater => by
      have hne : name ≠ other := fun heq => by simp [hout other heq] at hlater
      rw [hsame other hne]
      exact h other later (by rw [Table.get?_cons, if_neg hne, hlater])
    refine ⟨merged, ?_, fun other => ?_⟩
    · rw [mergeFields, mergeField_eq, hfield]
      exact hmerged
    · have hother := hmerges other
      rw [Table.get?_cons]
      by_cases hne : name = other
      · rw [hout other hne] at hother
        rw [if_pos hne]
        subst hne
        exact ⟨new, hfield, hother.trans (by rw [Table.get?_put, if_pos rfl])⟩
      · rw [hsame other hne] at hother
        rw [if_neg hne]
        exact hother

/-! ## Fields of a kind -/

section

variable {β : Type} {R : Datum α → β → Prop} {name : String} {update : Datum α} {own fields u merged : Table (Datum α)}
  {t given : Table β}

/-- A table is laid over the table that is there. -/
theorem mergedField_table (hname : name ∈ tableFields) (hgiven : Datum.GivesTable R (some update) given) :
    ∃ new, update = .map new ∧ Table.Matched R new given ∧
      mergedField name (.map own) update = .ok (.map (own.overlay (Table.mapValues Datum.opened new))) := by
  obtain ⟨new, rfl, hmatched⟩ := hgiven
  have hvisited : name ≠ "visited" := by
    rintro rfl
    exact absurd hname (by decide)
  refine ⟨new, rfl, hmatched, ?_⟩
  unfold mergedField
  rw [if_neg hvisited, if_pos (List.contains_iff_mem.2 hname), ← Datum.openedFields_eq]
  rfl

/-- What is read of a table is what was given over what was there. -/
theorem Merges.table (h : Merges fields u merged) (hname : name ∈ tableFields) {read : Reader α β}
    (hread : ∀ d b, R d b → read d.opened = .ok b) (hgiven : Datum.GivesTable R (u.get? name) given)
    (hfield : fields.get? name = some (.map own)) (hown : Reader.table read (.map own) = .ok t) :
    Reader.optional merged name [] (Reader.table read) = .ok (t.overlay given) := by
  have hmerged := h name
  cases hu : u.get? name with
  | none =>
    rw [hu] at hmerged hgiven
    obtain rfl : given = [] := hgiven
    rw [Reader.optional_eq (hmerged.trans hfield), hown]
    rfl
  | some update =>
    rw [hu, hfield] at hmerged
    rw [hu] at hgiven
    obtain ⟨d, hd, hmerged⟩ := hmerged
    obtain ⟨new, rfl, hnew, htable⟩ := mergedField_table hname hgiven
    obtain rfl := Except.ok.inj (htable.symm.trans hd)
    have hopened : Table.Matched (fun d b => read d = .ok b) (Table.mapValues Datum.opened new) given :=
      hnew.mapLeft fun d b hdb => hread d b hdb
    rw [Reader.optional_eq hmerged, Reader.table_eq_ok.2 ((Reader.table_eq_ok.1 hown).overlay hopened)]
    rfl

end

/-! ## Merging -/

section

variable {s : State α} {U V : Updates α} {u v : Table (Datum α)}

/-- Every field that is given can be merged. -/
theorem mergedField_ok (hu : U.GivenBy u) {name : String} {update : Datum α} (h : u.get? name = some update) :
    ∃ new, mergedField name ((s.savedFields.get? name).getD .null) update = .ok new := by
  by_cases hvisited : name = "visited"
  · subst hvisited
    have hgiven := hu.visited
    rw [h] at hgiven
    obtain ⟨new, -, hcollects⟩ := hgiven
    exact ⟨_, hcollects.unite s.visited⟩
  · by_cases hname : name ∈ tableFields
    · have htable : ∀ {β : Type} {R : Datum α → β → Prop} {given : Table β} {own : Table (Datum α)},
          Datum.GivesTable R (u.get? name) given → s.savedFields.get? name = some (.map own) →
          ∃ new, mergedField name ((s.savedFields.get? name).getD .null) update = .ok new := by
        intro β R given own hgiven hown
        rw [h] at hgiven
        obtain ⟨new, -, -, hnew⟩ := mergedField_table hname hgiven
        exact ⟨_, by rw [hown]; exact hnew⟩
      simp only [tableFields, List.mem_cons, List.not_mem_nil, or_false] at hname
      rcases hname with rfl | rfl | rfl | rfl | rfl | rfl | rfl
      · exact htable hu.inventory rfl
      · exact htable hu.currencies rfl
      · exact htable hu.stats rfl
      · exact htable hu.flags rfl
      · exact htable hu.puzzles rfl
      · exact htable hu.timers rfl
      · exact htable hu.lockedChoices rfl
    · refine ⟨update.opened, ?_⟩
      unfold mergedField
      rw [if_neg hvisited, if_neg fun hcontains => hname (List.contains_iff_mem.1 hcontains)]

variable [FaithfulNumber α]

omit [FaithfulNumber α] in
theorem Merges.currentNode {merged : Table (Datum α)} (h : Merges s.savedFields u merged) (hu : U.GivenBy u) :
    Reader.required merged "current_node_id" Reader.text = .ok (s.updated U).currentNode := by
  have hmerged := h "current_node_id"
  rw [hu.currentNode] at hmerged
  unfold updated
  cases hcurrent : U.currentNode with
  | none =>
    rw [hcurrent] at hmerged
    rw [Reader.required_eq hmerged]
    rfl
  | some id =>
    rw [hcurrent] at hmerged
    obtain ⟨new, hnew, hmerged⟩ := hmerged
    obtain rfl : Datum.text id = new := Except.ok.inj hnew
    rw [Reader.required_eq hmerged]
    rfl

omit [FaithfulNumber α] in
theorem Merges.visited {merged : Table (Datum α)} (h : Merges s.savedFields u merged) (hs : s.Savable)
    (hu : U.GivenBy u) : Reader.optional merged "visited" [] Reader.textSet = .ok (s.updated U).visited := by
  have hmerged := h "visited"
  have hgiven := hu.visited
  unfold updated
  cases hupdate : u.get? "visited" with
  | none =>
    rw [hupdate] at hmerged hgiven
    rw [show U.visited = none from hgiven, Reader.optional_eq (hmerged.trans rfl), Reader.textSet_texts hs.visited]
    rfl
  | some update =>
    rw [hupdate] at hmerged hgiven
    obtain ⟨ids, hids, hcollects⟩ := hgiven
    obtain ⟨new, hnew, hmerged⟩ := hmerged
    obtain rfl := Except.ok.inj ((hcollects.unite s.visited).symm.trans hnew)
    rw [hids, Reader.optional_eq hmerged, Reader.textSet_texts (unite_nodup _ _)]
    rfl

/-- Merging gives the state with the updates. -/
theorem merge_eq (hs : s.Savable) (hu : U.GivenBy u) : s.merge u = .ok (s.updated U) := by
  obtain ⟨merged, hmerged, hmerges⟩ := mergeFields_ok hu.keys s.savedFields fun _ _ h => mergedField_ok hu h
  have hwhole : ∀ (d : Datum α) (n : Int), d = .whole n → Reader.whole d.opened = .ok n := by
    rintro _ n rfl
    exact Reader.whole_whole n
  have hamount : ∀ (d : Datum α) (x : α), d = .num x → Reader.amount d.opened = .ok x := by
    rintro _ x rfl
    rfl
  have hinventory : Reader.optional merged "inventory" [] (Reader.table Reader.whole) = .ok (s.updated U).inventory :=
    hmerges.table (by decide) hwhole hu.inventory rfl (Reader.table_mapValues fun entry _ => Reader.whole_whole entry.2)
  have hcurrencies :
      Reader.optional merged "currencies" [] (Reader.table Reader.amount) = .ok (s.updated U).currencies :=
    hmerges.table (by decide) hamount hu.currencies rfl (Reader.table_mapValues fun _ _ => rfl)
  have hstats : Reader.optional merged "stats" [] (Reader.table Reader.amount) = .ok (s.updated U).stats :=
    hmerges.table (by decide) hamount hu.stats rfl (Reader.table_mapValues fun _ _ => rfl)
  have hflags : Reader.optional merged "flags" [] (Reader.table Reader.truth) = .ok (s.updated U).flags :=
    hmerges.table (by decide) (by rintro _ b rfl; rfl) hu.flags rfl (Reader.table_mapValues fun _ _ => rfl)
  have hpuzzles : Reader.optional merged "puzzles" [] (Reader.table Progress.read) = .ok (s.updated U).puzzles :=
    hmerges.table (by decide) (fun _ _ h => h.read_opened) hu.puzzles rfl
      (Reader.table_mapValues fun entry h => (hs.puzzles entry h).read_saved)
  have htimers : Reader.optional merged "timers" [] (Reader.table readTimer) = .ok (s.updated U).timers :=
    hmerges.table (by decide) (fun _ _ h => h.read_opened) hu.timers rfl
      (Reader.table_mapValues fun entry _ => read_timerDocument entry.2)
  have hlocks : Reader.optional merged "locked_choices" [] (Reader.table (Reader.list Reader.whole)) =
      .ok (s.updated U).lockedChoices :=
    hmerges.table (by decide) (by rintro _ ns rfl; exact Reader.list_wholes ns) hu.lockedChoices rfl
      (Reader.table_mapValues fun entry _ => Reader.list_wholes entry.2)
  have hread : State.readFields merged = .ok (s.updated U) := by
    simp only [State.readFields, hmerges.currentNode hu, hmerges.visited hs hu, hinventory, hcurrencies, hstats, hflags,
      hpuzzles, htimers, hlocks, Checked.map_ok, Checked.ok_seq]
  unfold merge
  rw [hs.snapshotFields]
  dsimp only
  rw [hmerged]
  have hrestored : restore (.map merged) = .ok (s.updated U) := by rw [restore, hread]
  dsimp only [bind, Except.bind]
  rw [hrestored]

end

end State

/-! ## Overriding updates -/

namespace Updates

variable [Number α]

/-- The nodes of two collections. -/
def unitedNodes (old new : Datum α) : Datum α :=
  .seq .set (Datum.distinct (old.members?.getD [] ++ new.members?.getD []))

/-- What a field is overridden with: tables key by key, nodes by those of both. -/
def overrideField (name : String) : Option (Datum α) → Datum α → Datum α
  | none, new => new
  | some old, new =>
    if name = "visited" then unitedNodes old new
    else match old, new with
      | .map t, .map t' => .map (Table.overlay t t')
      | _, new => new

/-- Updates overridden by others. -/
def overridden (u v : Table (Datum α)) : Table (Datum α) :=
  u.overlay (v.map fun entry => (entry.1, overrideField entry.1 (u.get? entry.1) entry.2))

section

variable {U V : Updates α} {u v : Table (Datum α)}

theorem get?_overridden (hv : v.keys.Nodup) (name : String) : (overridden u v).get? name =
    ((v.get? name).map (overrideField name (u.get? name))).or (u.get? name) := by
  have hkeys : Table.keys (v.map fun entry => (entry.1, overrideField entry.1 (u.get? entry.1) entry.2)) = v.keys := by
    simp [Table.keys]
  have hget (v : Table (Datum α)) :
      Table.get? (v.map fun entry => (entry.1, overrideField entry.1 (u.get? entry.1) entry.2)) name =
        (v.get? name).map (overrideField name (u.get? name)) := by
    induction v with
    | nil => rfl
    | cons entry rest ih =>
      rw [List.map_cons, Table.get?_cons, Table.get?_cons, ih]
      by_cases h : entry.1 = name
      · rw [if_pos h, if_pos h, h]
        rfl
      · rw [if_neg h, if_neg h]
  rw [overridden, Table.get?_overlay_or (hkeys ▸ hv), hget]

theorem givesTable_override {β : Type} {R : Datum α → β → Prop} {name : String} (hname : name ≠ "visited")
    {old new : Option (Datum α)} {t t' : Table β} (h : Datum.GivesTable R old t) (h' : Datum.GivesTable R new t')
    (hkeys : t'.keys.Nodup) :
    Datum.GivesTable R ((new.map (overrideField name old)).or old) (t.overlay t') := by
  cases new with
  | none =>
    obtain rfl : t' = [] := h'
    exact h
  | some new =>
    obtain ⟨fields', rfl, hmatched'⟩ := h'
    cases old with
    | none =>
      obtain rfl : t = [] := h
      have hsame : Table.overlay [] t' = t' := Table.ofEntries_of_nodup hkeys
      rw [hsame]
      exact ⟨fields', rfl, hmatched'⟩
    | some old =>
      obtain ⟨fields, rfl, hmatched⟩ := h
      exact ⟨_, if_neg hname, hmatched.overlay hmatched'⟩

theorem givesNodes_override {old new : Option (Datum α)} {ids ids' : Option (List String)}
    (h : Datum.GivesNodes old ids) (h' : Datum.GivesNodes new ids') :
    Datum.GivesNodes ((new.map (overrideField "visited" old)).or old) (ids.merge (· ++ ·) ids') := by
  cases new with
  | none =>
    obtain rfl : ids' = none := h'
    rwa [Option.merge_none_right]
  | some new =>
    obtain ⟨given', rfl, hcollects'⟩ := h'
    cases old with
    | none =>
      obtain rfl : ids = none := h
      exact ⟨given', rfl, hcollects'⟩
    | some old =>
      obtain ⟨given, rfl, hcollects⟩ := h
      obtain ⟨items, hitems, hmembers⟩ := hcollects
      obtain ⟨items', hitems', hmembers'⟩ := hcollects'
      obtain ⟨ks, hks, -, hks'⟩ := Datum.distinct_texts (α := α) (items ++ items')
      refine ⟨_, rfl, ?_⟩
      show (unitedNodes old new).Collects _
      unfold unitedNodes
      rw [hitems, hitems', Option.getD_some, Option.getD_some, ← List.map_append, hks]
      obtain ⟨items'', hitems'', hmembers''⟩ := Datum.collects_seq (α := α) .set ks
      refine ⟨items'', hitems'', fun id => ?_⟩
      rw [hmembers'', hks', List.mem_append, List.mem_append, hmembers, hmembers']

theorem GivenBy.override (hu : U.GivenBy u) (hv : V.GivenBy v) : (U.override V).GivenBy (overridden u v) where
  keys := Table.keys_overlay_nodup hu.keys _
  proper := hu.proper.override
  currentNode := by
    rw [get?_overridden hv.keys, hu.currentNode, hv.currentNode]
    unfold Updates.override
    cases U.currentNode <;> cases V.currentNode <;> rfl
  visited := by
    rw [get?_overridden hv.keys]
    exact givesNodes_override hu.visited hv.visited
  inventory := by
    rw [get?_overridden hv.keys]
    exact givesTable_override (by decide) hu.inventory hv.inventory hv.proper.inventory
  currencies := by
    rw [get?_overridden hv.keys]
    exact givesTable_override (by decide) hu.currencies hv.currencies hv.proper.currencies
  stats := by
    rw [get?_overridden hv.keys]
    exact givesTable_override (by decide) hu.stats hv.stats hv.proper.stats
  flags := by
    rw [get?_overridden hv.keys]
    exact givesTable_override (by decide) hu.flags hv.flags hv.proper.flags
  puzzles := by
    rw [get?_overridden hv.keys]
    exact givesTable_override (by decide) hu.puzzles hv.puzzles hv.proper.puzzles
  timers := by
    rw [get?_overridden hv.keys]
    exact givesTable_override (by decide) hu.timers hv.timers hv.proper.timers
  lockedChoices := by
    rw [get?_overridden hv.keys]
    exact givesTable_override (by decide) hu.lockedChoices hv.lockedChoices hv.proper.lockedChoices

end

end Updates

namespace State

theorem givenBy_nothing [Number α] : ({} : Updates α).GivenBy [] where
  keys := List.nodup_nil
  proper := by constructor <;> exact List.nodup_nil
  currentNode := rfl
  visited := rfl
  inventory := rfl
  currencies := rfl
  stats := rfl
  flags := rfl
  puzzles := rfl
  timers := rfl
  lockedChoices := rfl

/-- Merging updates overrides a state key by key.  Nothing is merged by no updates, merging twice is merging the second
updates over the first ones, and merging the same updates again changes nothing. -/
theorem merge_overrides [Number α] [FaithfulNumber α] {s : State α} {U V : Updates α} {u v : Table (Datum α)}
    (hs : s.Savable) (hu : U.GivenBy u) (hv : V.GivenBy v) :
    ∃ a, s.merge u = .ok a ∧ s.Overrides U a ∧ s.merge [] = .ok s ∧
      (∃ b, a.merge v = .ok b ∧ s.merge (Updates.overridden u v) = .ok b) ∧ a.merge u = .ok a := by
  have ha : (s.updated U).Savable := hs.updated hu.savable
  refine ⟨s.updated U, merge_eq hs hu, updated_overrides s hu.proper, ?_, ⟨_, merge_eq ha hv, ?_⟩, ?_⟩
  · have hnothing := merge_eq hs givenBy_nothing
    rwa [updated_nothing] at hnothing
  · rw [merge_eq hs (hu.override hv), updated_updated s hu.proper]
  · rw [merge_eq ha hu, updated_twice s hu.proper]

/-- What happens below the cave: two nodes are seen, a torch burns down, and the riddle is half solved. -/
def descent : Table (Datum Amount) :=
  [("visited", .seq .set [.text "cellar", .text "gate"]),
   ("inventory", .map [("torch", .whole 1), ("key", .whole 1)]),
   ("puzzles", .map [("riddle", .map [("attempts", .whole 2), ("score", .num (.float 0.5))])])]

def descentUpdates : Updates Amount where
  visited := some ["cellar", "gate"]
  inventory := [("torch", 1), ("key", 1)]
  puzzles := [("riddle", { attempts := 2, score := some (.float 0.5) })]

theorem descent_givenBy : descentUpdates.GivenBy descent where
  keys := by decide
  proper := by constructor <;> decide
  currentNode := rfl
  visited := ⟨_, rfl, Datum.collects_seq .set ["cellar", "gate"]⟩
  inventory := ⟨_, rfl, .cons ⟨rfl, rfl⟩ (.cons ⟨rfl, rfl⟩ .nil)⟩
  currencies := rfl
  stats := rfl
  flags := rfl
  puzzles := by
    refine ⟨_, rfl, .cons ⟨rfl, ⟨⟨rfl, rfl⟩, ?_⟩, _, .inl rfl, ?_⟩ .nil⟩
    · rintro _ ⟨⟩
      rfl
    · exact { solved := rfl, attempts := rfl, timeMs := rfl, score := .inr ⟨_, _, rfl, rfl, rfl⟩, lastAnswer := rfl,
              solvedAt := rfl, hintsUsed := rfl }
  timers := rfl
  lockedChoices := rfl

/-- What happens next: the cellar is entered, and the flood comes later. -/
def arrival : Table (Datum Amount) :=
  [("current_node_id", .text "cellar"), ("inventory", .map [("torch", .whole 0)]),
   ("timers", .map [("flood", .record .timer [("expires_at", .whole 9)])])]

def arrivalUpdates : Updates Amount where
  currentNode := some "cellar"
  inventory := [("torch", 0)]
  timers := [("flood", 9)]

theorem arrival_givenBy : arrivalUpdates.GivenBy arrival where
  keys := by decide
  proper := by constructor <;> decide
  currentNode := rfl
  visited := rfl
  inventory := ⟨_, rfl, .cons ⟨rfl, rfl⟩ .nil⟩
  currencies := rfl
  stats := rfl
  flags := rfl
  puzzles := rfl
  timers := ⟨_, rfl, .cons ⟨rfl, _, .inr rfl, rfl⟩ .nil⟩
  lockedChoices := rfl

theorem halfway_overrides : ∃ a, halfway.merge descent = .ok a ∧ a.inventory.get? "torch" = some 1 ∧
    a.inventory.get? "rope" = some 0 ∧ halfway.merge [] = .ok halfway ∧
    (∃ b, a.merge arrival = .ok b ∧ halfway.merge (Updates.overridden descent arrival) = .ok b) ∧
    a.merge descent = .ok a := by
  obtain ⟨a, ha, hoverrides, hnothing, hboth, htwice⟩ :=
    merge_overrides halfway_writable.sized.savable descent_givenBy arrival_givenBy
  exact ⟨a, ha, hoverrides.inventory "torch", hoverrides.inventory "rope", hnothing, hboth, htwice⟩

end State

end StoryRules
