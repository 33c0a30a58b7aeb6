import StoryRules.Proofs.State.Updates
import StoryRules.State.Merge

/-!
# Updates as they are given

Updates arrive as a table of values.  The nodes may come in any collection of texts, and records of puzzles and timers
may stand for themselves or as tables; opened, they are read as what they say.

    d.IsProgress p → Progress.read d.opened = .ok p                                       (IsProgress.read_opened)
-/

namespace StoryRules

variable {α : Type}

namespace Datum

/-! ## Opened values -/

theorem unrecordFields_eq (fields : Table (Datum α)) : unrecordFields fields = Table.mapValues unrecord fields := by
  induction fields with
  | nil => rfl
  | cons field rest ih => exact congrArg _ ih

theorem openedFields_eq (fields : Table (Datum α)) : openedFields fields = Table.mapValues opened fields := by
  induction fields with
  | nil => rfl
  | cons field rest ih => exact congrArg _ ih

mutual

/-- There are no records in a plain copy. -/
theorem opened_of_plain {d e : Datum α} (h : d.plain = .ok e) : e.unrecord = e ∧ e.opened = e := by
  cases d with
  | null | bool b | num x | text s =>
    cases h
    exact ⟨rfl, rfl⟩
  | bytes bs =>
    obtain ⟨s, rfl⟩ := plain_bytes_ok h
    exact ⟨rfl, rfl⟩
  | seq kind items =>
    obtain ⟨kept, hkept, rfl⟩ := plain_seq_ok h
    exact ⟨congrArg (seq .list) (unrecordItems_of_plain hkept), rfl⟩
  | map fields =>
    obtain ⟨kept, hkept, rfl⟩ := plain_map_ok h
    obtain ⟨hunrecord, hopened⟩ := openedFields_of_plain hkept
    exact ⟨congrArg map hunrecord, congrArg map hopened⟩
  | record kind fields =>
    obtain ⟨kept, hkept, rfl⟩ := plain_record_ok h
    obtain ⟨hunrecord, hopened⟩ := openedFields_of_plain hkept
    exact ⟨congrArg map hunrecord, congrArg map hopened⟩

theorem unrecordItems_of_plain {items kept : List (Datum α)} (h : plainItems items = .ok kept) :
    unrecordItems kept = kept := by
  cases items with
  | nil =>
    cases h
    rfl
  | cons d rest =>
    obtain ⟨e, others, he, hothers, rfl⟩ := plainItems_cons_ok h
    rw [unrecordItems, (opened_of_plain he).1, unrecordItems_of_plain hothers]

theorem openedFields_of_plain {fields kept : List (String × Datum α)} (h : plainFields fields = .ok kept) :
    unrecordFields kept = kept ∧ openedFields kept = kept := by
  cases fields with
  | nil =>
    cases h
    exact ⟨rfl, rfl⟩
  | cons field rest =>
    obtain ⟨key, d⟩ := field
    obtain ⟨e, others, he, hothers, rfl⟩ := plainFields_cons_ok h
    obtain ⟨hunrecord, hopened⟩ := opened_of_plain he
    obtain ⟨hunrecords, hopeneds⟩ := openedFields_of_plain hothers
    constructor
    · rw [unrecordFields, hunrecord, hunrecords]
    · rw [openedFields, hopened, hopeneds]

end

/-- The fields of an opened record or table, whatever its values are opened to. -/
theorem exists_opened {kind : RecordKind} {fields : Table (Datum α)} {d : Datum α}
    (h : d = .map fields ∨ d = .record kind fields) :
    ∃ open_, (open_ = unrecord ∨ open_ = opened) ∧ d.opened = .map (Table.mapValues open_ fields) := by
  rcases h with rfl | rfl
  · exact ⟨opened, .inr rfl, congrArg map (openedFields_eq fields)⟩
  · exact ⟨unrecord, .inl rfl, congrArg map (unrecordFields_eq fields)⟩

/-! ## Collections of texts -/

section

variable [Number α]

theorem same_text (s t : String) : (text s : Datum α).same (.text t) = decide (s = t) := by
  rw [same, sameScalar]
  all_goals simp

/-- Of texts without repetition one more is kept just if it is new. -/
theorem foldl_distinct (ids : List String) : ∀ kept : List String, kept.Nodup → ∃ ks : List String,
    (ids.map text).foldl (fun kept d => if kept.any (fun k => k.same d) then kept else kept ++ [d])
      (kept.map (text (α := α))) = ks.map text ∧ ks.Nodup ∧ ∀ id, id ∈ ks ↔ id ∈ kept ∨ id ∈ ids := by
  induction ids with
  | nil => exact fun kept hkept => ⟨kept, rfl, hkept, by simp⟩
  | cons id rest ih =>
    intro kept hkept
    have hany : ((kept.map (text (α := α))).any fun k => k.same (.text id)) = true ↔ id ∈ kept := by
      simp [same_text]
    rw [List.map_cons, List.foldl_cons]
    by_cases hmem : id ∈ kept
    · rw [if_pos (hany.2 hmem)]
      obtain ⟨ks, hks, hnodup, hmembers⟩ := ih kept hkept
      refine ⟨ks, hks, hnodup, fun other => (hmembers other).trans ⟨Or.imp_right (List.mem_cons_of_mem _), ?_⟩⟩
      rintro (h | h)
      · exact .inl h
      · rcases List.mem_cons.1 h with rfl | h
        · exact .inl hmem
        · exact .inr h
    · have hlast : kept.map (text (α := α)) ++ [text id] = (kept ++ [id]).map text := by simp
      have hkept' : (kept ++ [id]).Nodup := by
        rw [← List.concat_eq_append]
        exact List.Nodup.concat hmem hkept
      rw [if_neg fun h => hmem (hany.1 h), hlast]
      obtain ⟨ks, hks, hnodup, hmembers⟩ := ih _ hkept'
      refine ⟨ks, hks, hnodup, fun other => (hmembers other).trans ?_⟩
      rw [List.mem_append, List.mem_singleton, List.mem_cons, or_assoc]

theorem distinct_texts (ids : List String) : ∃ ks : List String,
    distinct (ids.map (text (α := α))) = ks.map text ∧ ks.Nodup ∧ ∀ id, id ∈ ks ↔ id ∈ ids := by
  obtain ⟨ks, hks, hnodup, hmembers⟩ := foldl_distinct (α := α) ids [] List.nodup_nil
  exact ⟨ks, hks, hnodup, fun id => by rw [hmembers, or_iff_right List.not_mem_nil]⟩

theorem sorted?_texts (ids : List String) :
    sorted? (ids.map (text (α := α))) = some ((ids.mergeSort fun a b => !(b < a)).map text) := by
  unfold sorted?
  split
  · next hshort =>
    rw [List.length_map] at hshort
    match ids, hshort with
    | [], _ => simp
    | [id], _ => simp
  · have htexts : ((ids.map (text (α := α))).all fun d => d.text?.isSome) = true := by simp [text?]
    rw [if_pos htexts]
    have hsort : (ids.mergeSort fun a b => !(b < a)).map (text (α := α)) =
        (ids.map text).mergeSort fun a b => !(b.text?.getD "" < a.text?.getD "") :=
      List.map_mergeSort fun _ _ _ _ => rfl
    rw [hsort]

/-- The members of a collection are texts, those of the list. -/
def Collects (d : Datum α) (ids : List String) : Prop :=
  ∃ items : List String, d.members? = some (items.map text) ∧ ∀ id, id ∈ items ↔ id ∈ ids

omit [Number α] in
theorem allHashable_texts (ids : List String) : allHashable (ids.map (text (α := α))) = true := by
  induction ids with
  | nil => rfl
  | cons id rest ih => exact ih

/-- A sequence of texts of any kind collects them. -/
theorem collects_seq (kind : SeqKind) (ids : List String) : (seq kind (ids.map (text (α := α)))).Collects ids :=
  ⟨ids, by rw [members?, if_pos (allHashable_texts ids)], fun _ => Iff.rfl⟩

/-- The visited nodes are united with what a collection has. -/
theorem Collects.unite {d : Datum α} {new : List String} (h : d.Collects new) (old : List String) :
    State.uniteVisited (.texts old) d = .ok (.texts (State.unite old new)) := by
  obtain ⟨items, hitems, hmembers⟩ := h
  obtain ⟨ks, hks, hnodup, hks'⟩ := distinct_texts (α := α) (old ++ items)
  have hsorted : (ks.mergeSort fun a b => !(b < a)) = State.unite old new :=
    State.mergeSort_eq_unite hnodup fun id => by rw [hks', List.mem_append, hmembers]
  unfold State.uniteVisited texts list
  rw [hitems]
  dsimp only
  rw [← List.map_append, hks, sorted?_texts, hsorted]

end

end Datum

/-! ## Records -/

section

variable [Number α]

/-- What a field says, which may be missing. -/
def Datum.Says {β : Type} (R : Datum α → β → Prop) (default : β) : Option (Datum α) → β → Prop
  | none, b => b = default
  | some d, b => R d b

/-- A number that can be measured, or null. -/
def Datum.IsScore (d : Datum α) (score : Option α) : Prop :=
  d = .null ∧ score = none ∨ ∃ x y, d = .num x ∧ Number.toMeasure? x = some y ∧ score = some y

/-- What the fields of a record of progress say. -/
structure Progress.ToldBy (p : Progress α) (fields : Table (Datum α)) : Prop where
  solved : Datum.Says (fun d b => d = .bool b) false (fields.get? "solved") p.solved
  attempts : Datum.Says (fun d n => d = .whole n) 0 (fields.get? "attempts") p.attempts
  timeMs : Datum.Says (fun d n => d = Datum.ofOption .whole n) none (fields.get? "time_ms") p.timeMs
  score : Datum.Says Datum.IsScore none (fields.get? "score") p.score
  lastAnswer : Datum.Says (fun d answer => d = answer) .null (fields.get? "last_answer") p.lastAnswer
  solvedAt : Datum.Says (fun d n => d = Datum.ofOption .whole n) none (fields.get? "solved_at") p.solvedAt
  hintsUsed : Datum.Says (fun d n => d = .whole n) 0 (fields.get? "hints_used") p.hintsUsed

/-- A record of progress or a table of its fields, of what a snapshot keeps. -/
def Datum.IsProgress (d : Datum α) (p : Progress α) : Prop :=
  p.Savable ∧ ∃ fields, (d = .map fields ∨ d = .record .progress fields) ∧ p.ToldBy fields

/-- A timer as a record or as a table. -/
def Datum.IsTimer (d : Datum α) (end_ : Int) : Prop :=
  ∃ fields, (d = .map fields ∨ d = .record .timer fields) ∧ Table.get? fields "expires_at" = some (.whole end_)

omit [Number α] in
/-- A field is read as what it says, if opening it changes nothing that matters to the reader. -/
theorem Datum.Says.optional {β : Type} {R : Datum α → β → Prop} {default b : β} {fields : Table (Datum α)}
    {name : String} (h : Datum.Says R default (fields.get? name) b) {open_ : Datum α → Datum α} {read : Reader α β}
    (hread : ∀ d, R d b → read (open_ d) = .ok b) :
    Reader.optional (Table.mapValues open_ fields) name default read = .ok b := by
  have hfield := Table.get?_mapValues open_ fields name
  cases hd : fields.get? name with
  | none =>
    rw [hd] at h hfield
    unfold Reader.optional
    rw [hfield]
    exact congrArg _ h.symm
  | some d =>
    rw [hd] at h hfield
    rw [Reader.optional_eq hfield, hread d h]
    rfl

variable [FaithfulNumber α]

theorem Datum.IsTimer.read_opened {d : Datum α} {end_ : Int} (h : d.IsTimer end_) :
    State.readTimer d.opened = .ok end_ := by
  obtain ⟨fields, hd, hend⟩ := h
  obtain ⟨open_, hopen, hopened⟩ := Datum.exists_opened hd
  have hkept : open_ (.whole end_) = .whole end_ := by rcases hopen with rfl | rfl <;> rfl
  have hfield : (Table.mapValues open_ fields).get? "expires_at" = some (.whole end_) := by
    rw [Table.get?_mapValues, hend, Option.map_some, hkept]
  rw [hopened]
  show Reader.required _ "expires_at" Reader.whole = .ok end_
  rw [Reader.required_eq hfield, Reader.whole_whole]
  rfl

theorem Datum.IsProgress.read_opened {d : Datum α} {p : Progress α} (h : d.IsProgress p) :
    Progress.read d.opened = .ok p := by
  obtain ⟨hsavable, fields, hd, htold⟩ := h
  obtain ⟨open_, hopen, hopened⟩ := Datum.exists_opened hd
  have hanswer : open_ p.lastAnswer = p.lastAnswer := by
    obtain ⟨hunrecord, hopen_⟩ := Datum.opened_of_plain hsavable.answer.1
    rcases hopen with rfl | rfl
    · exact hunrecord
    · exact hopen_
  have hnull : open_ .null = .null := by rcases hopen with rfl | rfl <;> rfl
  have hbool : ∀ b, open_ (.bool b) = .bool b := by rcases hopen with rfl | rfl <;> exact fun _ => rfl
  have hnum : ∀ x, open_ (.num x) = .num x := by rcases hopen with rfl | rfl <;> exact fun _ => rfl
  have hlimit : ∀ (d : Datum α) (n : Option Int), d = Datum.ofOption .whole n →
      Reader.nullable Reader.whole (open_ d) = .ok n := by
    rintro _ (_ | n) rfl
    · rw [Datum.ofOption, hnull]
      rfl
    · rw [Datum.ofOption, Datum.whole, hnum]
      exact Reader.nullable_whole (some n)
  have hcount : ∀ (d : Datum α) (n : Int), d = .whole n → Reader.whole (open_ d) = .ok n := by
    rintro _ n rfl
    rw [Datum.whole, hnum]
    exact Reader.whole_whole n
  have hscore : ∀ (d : Datum α) (score : Option α), d.IsScore score →
      Reader.nullable Reader.measure (open_ d) = .ok score := by
    rintro _ _ (⟨rfl, rfl⟩ | ⟨x, y, rfl, hxy, rfl⟩)
    · rw [hnull]
      rfl
    · rw [hnum]
      show (Reader.measure (.num x)).map some = .ok (some y)
      rw [Reader.measure, hxy]
      rfl
  have hsolved : Reader.optional (Table.mapValues open_ fields) "solved" false Reader.truth = .ok p.solved :=
    htold.solved.optional <| by
      rintro _ rfl
      rw [hbool]
      rfl
  have hlast : Reader.optional (Table.mapValues open_ fields) "last_answer" .null Reader.anything = .ok p.lastAnswer :=
    htold.lastAnswer.optional <| by
      rintro _ rfl
      rw [hanswer]
      rfl
  rw [hopened]
  show Progress.readFields Reader.measure _ = _
  simp only [Progress.readFields, hsolved, htold.attempts.optional fun d => hcount d _,
    htold.timeMs.optional fun d => hlimit d _, htold.score.optional fun d => hscore d _, hlast,
    htold.solvedAt.optional fun d => hlimit d _, htold.hintsUsed.optional fun d => hcount d _, Checked.map_ok,
    Checked.ok_seq]

end

/-! ## Updates -/

/-- A table of given values, or none for an empty table. -/
def Datum.GivesTable {β : Type} (R : Datum α → β → Prop) : Option (Datum α) → Table β → Prop
  | none, t => t = []
  | some d, t => ∃ fields, d = .map fields ∧ Table.Matched R fields t

/-- A collection of nodes, or none at all. -/
def Datum.GivesNodes [Number α] : Option (Datum α) → Option (List String) → Prop
  | none, ids => ids = none
  | some d, ids => ∃ new, ids = some new ∧ d.Collects new

/-- Updates are given field by field, with values of the types that the fields have. -/
structure Updates.GivenBy [Number α] (U : Updates α) (u : Table (Datum α)) : Prop where
  keys : u.keys.Nodup
  proper : U.Proper
  currentNode : u.get? "current_node_id" = U.currentNode.map .text
  visited : Datum.GivesNodes (u.get? "visited") U.visited
  inventory : Datum.GivesTable (fun d n => d = .whole n) (u.get? "inventory") U.inventory
  currencies : Datum.GivesTable (fun d x => d = .num x) (u.get? "currencies") U.currencies
  stats : Datum.GivesTable (fun d x => d = .num x) (u.get? "stats") U.stats
  flags : Datum.GivesTable (fun d b => d = .bool b) (u.get? "flags") U.flags
  puzzles : Datum.GivesTable Datum.IsProgress (u.get? "puzzles") U.puzzles
  timers : Datum.GivesTable Datum.IsTimer (u.get? "timers") U.timers
  lockedChoices : Datum.GivesTable (fun d ns => d = .list (ns.map .whole)) (u.get? "locked_choices") U.lockedChoices

theorem Updates.GivenBy.savable [Number α] {U : Updates α} {u : Table (Datum α)} (h : U.GivenBy u) :
    ∀ entry ∈ U.puzzles, entry.2.Savable := by
  have hgiven := h.puzzles
  cases hd : u.get? "puzzles" with
  | none =>
    rw [hd] at hgiven
    rw [show U.puzzles = [] from hgiven]
    exact List.forall_mem_nil _
  | some d =>
    rw [hd] at hgiven
    obtain ⟨fields, -, hmatched⟩ := hgiven
    exact hmatched.forall_right fun _ _ hprogress => hprogress.1

end StoryRules
