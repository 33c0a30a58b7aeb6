import StoryRules.Proofs.Datum
import StoryRules.Proofs.Schema
import StoryRules.State.Snapshot

/-!
# Snapshots give states back

A state that holds no node twice among the visited ones, and of answers and scores only what a snapshot
keeps as it is, has a snapshot, and restoring that gives the same state again.

    s.Savable → ∃ d, s.snapshot = .ok d ∧ State.restore d = .ok s      (restore_snapshot)
-/

namespace StoryRules

variable {α : Type} [Number α]

/-- A snapshot keeps a record of progress as it is. -/
structure Progress.Savable (p : Progress α) : Prop where
  answer : p.lastAnswer.Lasts
  score : ∀ x, p.score = some x → Number.toMeasure? x = some x

/-- A snapshot keeps a state as it is. -/
structure State.Savable (s : State α) : Prop where
  visited : s.visited.Nodup
  puzzles : ∀ entry ∈ s.puzzles, entry.2.Savable

theorem Progress.savable_fresh : ({} : Progress α).Savable :=
  ⟨Datum.lasts_null, by rintro x ⟨⟩⟩

namespace State.Savable

variable {s : State α} (h : s.Savable)

include h

theorem progress (puzzle : String) : (s.progress puzzle).Savable := by
  unfold State.progress
  cases hp : s.puzzles.get? puzzle with
  | none => exact Progress.savable_fresh
  | some p => exact h.puzzles _ (Table.mem_of_get? hp)

theorem setProgress (puzzle : String) {p : Progress α} (hp : p.Savable) :
    (s.setProgress puzzle p).Savable := by
  refine ⟨h.visited, fun entry hentry => ?_⟩
  rcases Table.mem_put hentry with rfl | hentry
  · exact hp
  · exact h.puzzles entry hentry

theorem openProgress (puzzle : String) : (s.openProgress puzzle).Savable := by
  unfold State.openProgress
  split
  · exact h
  · exact h.setProgress puzzle Progress.savable_fresh

end State.Savable

/-! ## Records -/

/-- What a record is saved as, if its answer lasts. -/
def Progress.saved (p : Progress α) : Datum α :=
  .map [("solved", .bool p.solved), ("attempts", .whole p.attempts),
    ("time_ms", Datum.ofOption .whole p.timeMs), ("score", Datum.ofOption .num p.score),
    ("last_answer", p.lastAnswer), ("solved_at", Datum.ofOption .whole p.solvedAt),
    ("hints_used", .whole p.hintsUsed)]

theorem Progress.Savable.document {p : Progress α} (h : p.Savable) : p.document = .ok p.saved := by
  unfold Progress.document Progress.saved
  rw [h.answer.1]
  dsimp only [bind, Except.bind]
  rw [h.answer.2]

theorem State.progressDocuments_eq {t : Table (Progress α)} (h : ∀ entry ∈ t, entry.2.Savable) :
    State.progressDocuments t = .ok (t.mapValues Progress.saved) := by
  induction t with
  | nil => rfl
  | cons entry rest ih =>
    obtain ⟨id, p⟩ := entry
    rw [State.progressDocuments, (h (id, p) List.mem_cons_self).document,
      ih fun e he => h e (List.mem_cons_of_mem _ he)]
    rfl

open Reader

section

variable [FaithfulNumber α]

theorem Progress.Savable.read_saved {p : Progress α} (h : p.Savable) :
    Progress.read p.saved = .ok p := by
  have hscore : nullable measure (Datum.ofOption .num p.score : Datum α) = .ok p.score := by
    refine nullable_ofOption (by rintro c ⟨⟩) fun c hc => ?_
    rw [Reader.measure, h.score c hc]
  simp [Progress.saved, Progress.read, Progress.readFields, Reader.optional, Table.get?_cons,
    hscore, nullable_whole, anything]

/-! ## States -/

/-- The fields that a state is saved as. -/
def State.savedFields (s : State α) : Table (Datum α) :=
  [("current_node_id", .text s.currentNode), ("visited", .texts s.visited),
    ("inventory", .map (s.inventory.mapValues .whole)),
    ("currencies", .map (s.currencies.mapValues .num)),
    ("stats", .map (s.stats.mapValues .num)), ("flags", .map (s.flags.mapValues .bool)),
    ("puzzles", .map (s.puzzles.mapValues Progress.saved)),
    ("timers", .map (s.timers.mapValues State.timerDocument)),
    ("locked_choices", .map (s.lockedChoices.mapValues State.lockDocument))]

omit [FaithfulNumber α] in
theorem State.Savable.snapshotFields {s : State α} (h : s.Savable) :
    s.snapshotFields = .ok s.savedFields := by
  unfold State.snapshotFields State.savedFields
  rw [State.progressDocuments_eq h.puzzles]
  rfl

omit [Number α] [FaithfulNumber α] in
theorem eraseDups_of_nodup {ids : List String} (h : ids.Nodup) : ids.eraseDups = ids := by
  induction ids with
  | nil => rfl
  | cons id rest ih =>
    obtain ⟨hnew, hrest⟩ := List.nodup_cons.1 h
    have hkept : rest.filter (fun b => !b == id) = rest := by
      refine List.filter_eq_self.2 fun b hb => ?_
      have hne : b ≠ id := fun heq => hnew (heq ▸ hb)
      simpa using hne
    rw [List.eraseDups_cons, hkept, ih hrest]

omit [FaithfulNumber α] in
theorem Reader.textSet_texts {ids : List String} (h : ids.Nodup) :
    textSet (Datum.texts ids : Datum α) = .ok ids := by
  have hlist : itemsFrom text 0 (ids.map .text) = (.ok ids : Checked (List String)) :=
    list_texts (α := α) ids
  show (itemsFrom text 0 (ids.map (Datum.text (α := α)))).map List.eraseDups = .ok ids
  rw [hlist]
  show Checked.ok ids.eraseDups = .ok ids
  rw [eraseDups_of_nodup h]

theorem State.read_timerDocument (end_ : Int) : readTimer (timerDocument end_ : Datum α) = .ok end_ := by
  simp [readTimer, timerDocument, Reader.required, Table.get?_cons]

/-- Restoring the snapshot of a state gives the state. -/
theorem State.restore_snapshot {s : State α} (h : s.Savable) :
    ∃ d, s.snapshot = .ok d ∧ State.restore d = .ok s := by
  refine ⟨.map s.savedFields, ?_, ?_⟩
  · unfold State.snapshot
    rw [h.snapshotFields]
    rfl
  · have hpuzzles : table Progress.read (.map (s.puzzles.mapValues Progress.saved)) = .ok s.puzzles :=
      table_mapValues fun entry he => (h.puzzles entry he).read_saved
    have htimers : table State.readTimer (.map (s.timers.mapValues State.timerDocument) : Datum α) =
        .ok s.timers :=
      table_mapValues fun entry _ => State.read_timerDocument entry.2
    have hlocks : table (list whole)
        (.map (s.lockedChoices.mapValues State.lockDocument) : Datum α) = .ok s.lockedChoices :=
      table_mapValues fun entry _ => list_map fun n _ => whole_whole n
    have hinventory : table whole (.map (s.inventory.mapValues .whole) : Datum α) = .ok s.inventory :=
      table_mapValues fun entry _ => whole_whole entry.2
    have hcurrencies : table amount (.map (s.currencies.mapValues .num)) = .ok s.currencies :=
      table_mapValues fun entry _ => amount_num entry.2
    have hstats : table amount (.map (s.stats.mapValues .num)) = .ok s.stats :=
      table_mapValues fun entry _ => amount_num entry.2
    have hflags : table truth (.map (s.flags.mapValues .bool) : Datum α) = .ok s.flags :=
      table_mapValues fun entry _ => truth_bool entry.2
    have hread : State.readFields s.savedFields = .ok s := by
      simp [State.readFields, State.savedFields, Reader.required, Reader.optional, Table.get?_cons,
        textSet_texts h.visited, hpuzzles, htimers, hlocks, hinventory, hcurrencies, hstats, hflags]
    rw [State.restore, hread]

end

end StoryRules
