import StoryRules.Proofs.State.Written

/-!
# Answers in snapshots

A snapshot keeps of every last answer its plain copy, but for the numbers that are infinite or none.  A state is
restored with what is kept of its answers, so a recorded answer comes back as it was just if its numbers are finite.

    s.Restorable → ∃ d, s.snapshot = .ok d ∧ State.restore d = .ok s.kept                      (restore_kept)
-/

namespace StoryRules

/-! ## What is kept -/

section

variable {α : Type} [Number α]

/-- What a snapshot keeps of a value: of its plain copy all but the numbers that are infinite or none. -/
def Datum.kept (d : Datum α) : Datum α :=
  match d.plain with
  | .ok e => e.finitePart
  | .error _ => .null

theorem Datum.kept_of_plain {d e : Datum α} (h : d.plain = .ok e) : d.kept = e.finitePart := by
  unfold kept
  rw [h]

theorem Datum.kept_lasts (d : Datum α) : d.kept.Lasts := by
  unfold kept
  split
  · next e he => exact lasts_finitePart he
  · exact lasts_null

/-- The record as it is restored. -/
def Progress.kept (p : Progress α) : Progress α := { p with lastAnswer := p.lastAnswer.kept }

/-- The state as it is restored. -/
def State.kept (s : State α) : State α := { s with puzzles := s.puzzles.mapValues Progress.kept }

/-- A state with answers that can be copied and scores that are measured. -/
structure State.Restorable (s : State α) : Prop where
  visited : s.visited.Nodup
  answers : ∀ entry ∈ s.puzzles, entry.2.lastAnswer.Decodable
  scores : ∀ entry ∈ s.puzzles, ∀ x, entry.2.score = some x → Number.toMeasure? x = some x

/-- A record has the same document as what is kept of it. -/
theorem Progress.document_kept {p : Progress α} (h : p.lastAnswer.Decodable) :
    p.document = p.kept.document := by
  obtain ⟨e, he⟩ := Datum.plain_isOk_iff.2 h
  have hkept := Datum.kept_of_plain he
  have hlasts := Datum.lasts_finitePart he
  unfold Progress.document Progress.kept
  dsimp only
  rw [he, hkept, hlasts.1]
  dsimp only [bind, Except.bind]
  rw [hlasts.2]

theorem State.progressDocuments_kept {t : Table (Progress α)}
    (h : ∀ entry ∈ t, entry.2.lastAnswer.Decodable) :
    progressDocuments t = progressDocuments (t.mapValues Progress.kept) := by
  induction t with
  | nil => rfl
  | cons entry rest ih =>
    obtain ⟨id, p⟩ := entry
    show _ = progressDocuments ((id, p.kept) :: Table.mapValues Progress.kept rest)
    rw [progressDocuments, progressDocuments, Progress.document_kept (h (id, p) List.mem_cons_self),
      ih fun e he => h e (List.mem_cons_of_mem _ he)]

theorem State.snapshot_kept {s : State α} (h : ∀ entry ∈ s.puzzles, entry.2.lastAnswer.Decodable) :
    s.snapshot = s.kept.snapshot := by
  unfold State.snapshot State.snapshotFields State.kept
  dsimp only
  rw [State.progressDocuments_kept h]

theorem State.Restorable.savable {s : State α} (h : s.Restorable) : s.kept.Savable := by
  refine ⟨h.visited, List.forall_mem_map.2 fun entry hentry => ?_⟩
  exact ⟨entry.2.lastAnswer.kept_lasts, h.scores entry hentry⟩

/-- Restoring the snapshot of a state gives what is kept of the state. -/
theorem State.restore_kept [FaithfulNumber α] {s : State α} (h : s.Restorable) :
    ∃ d, s.snapshot = .ok d ∧ State.restore d = .ok s.kept := by
  rw [State.snapshot_kept h.answers]
  exact State.restore_snapshot h.savable

theorem State.get?_kept {s : State α} {puzzle : String} {p : Progress α}
    (hp : s.puzzles.get? puzzle = some p) : s.kept.puzzles.get? puzzle = some p.kept := by
  unfold State.kept
  dsimp only
  rw [Table.get?_mapValues, hp]
  rfl

end

/-! ## Answers that can be recorded -/

namespace Datum

mutual

/-- Whole numbers with no more digits than are read, bytes that encode texts, and each key of a table once; the
floating numbers may be any, and so may the sequences. -/
def Recordable : Datum Amount → Prop
  | .num x => x.Printable
  | .bytes bs => (String.fromUTF8? ⟨bs.toArray⟩).isSome = true
  | .seq _ items => RecordableItems items
  | .map fields => (Table.keys fields).Nodup ∧ RecordableFields fields
  | .record _ fields => (Table.keys fields).Nodup ∧ RecordableFields fields
  | _ => True

def RecordableItems : List (Datum Amount) → Prop
  | [] => True
  | d :: rest => d.Recordable ∧ RecordableItems rest

def RecordableFields : List (String × Datum Amount) → Prop
  | [] => True
  | (_, d) :: rest => d.Recordable ∧ RecordableFields rest

end

mutual

/-- The plain copy of an answer that can be recorded is read back from its text. -/
theorem Recordable.plain {d : Datum Amount} (hd : d.Recordable) : ∃ e, d.plain = .ok e ∧ e.Printable := by
  cases d with
  | null | bool b | text s => exact ⟨_, rfl, trivial⟩
  | num x => exact ⟨_, rfl, printable_num.2 hd⟩
  | bytes bs =>
    obtain ⟨s, hs⟩ := Option.isSome_iff_exists.1 hd
    rw [Datum.plain, hs]
    exact ⟨_, rfl, trivial⟩
  | seq kind items =>
    obtain ⟨kept, hkept, hitems⟩ := RecordableItems.plain hd
    rw [Datum.plain, hkept]
    exact ⟨_, rfl, rfl, hitems⟩
  | map fields | record kind fields =>
    obtain ⟨kept, hkept, hkeys, hfields⟩ := RecordableFields.plain hd.2
    rw [Datum.plain, hkept]
    exact ⟨_, rfl, printable_map (hkeys ▸ hd.1) (printableFields_iff.1 hfields)⟩

theorem RecordableItems.plain {items : List (Datum Amount)} (h : RecordableItems items) :
    ∃ kept, plainItems items = .ok kept ∧ PrintableItems kept := by
  cases items with
  | nil => exact ⟨_, rfl, trivial⟩
  | cons d rest =>
    obtain ⟨e, he, hprintable⟩ := h.1.plain
    obtain ⟨others, hothers, hrest⟩ := h.2.plain
    rw [plainItems, he, hothers]
    exact ⟨_, rfl, hprintable, hrest⟩

theorem RecordableFields.plain {fields : Table (Datum Amount)} (h : RecordableFields fields) :
    ∃ kept, plainFields fields = .ok kept ∧ Table.keys kept = fields.keys ∧ PrintableFields kept := by
  cases fields with
  | nil => exact ⟨_, rfl, rfl, trivial⟩
  | cons field rest =>
    obtain ⟨key, d⟩ := field
    obtain ⟨e, he, hprintable⟩ := h.1.plain
    obtain ⟨others, hothers, hkeys, hrest⟩ := h.2.plain
    rw [plainFields, he, hothers]
    exact ⟨_, rfl, congrArg (key :: ·) hkeys, hprintable, hrest⟩

end

theorem Recordable.kept {d : Datum Amount} (hd : d.Recordable) : d.kept.Writable := by
  obtain ⟨e, he, hprintable⟩ := hd.plain
  rw [kept_of_plain he]
  exact hprintable

end Datum

theorem Progress.Sized.kept {p : Progress Amount} (h : p.Sized Datum.Recordable) :
    p.kept.Sized Datum.Writable :=
  ⟨h.attempts, h.time, h.score, h.answer.kept, h.solvedAt, h.hints⟩

namespace State.Sized

variable {s : State Amount} (h : s.Sized Datum.Recordable)

include h

theorem restorable : s.Restorable where
  visited := h.visited
  answers := fun entry hentry => by
    obtain ⟨e, he, -⟩ := (h.puzzles.values entry hentry).answer.plain
    exact Datum.plain_isOk_iff.1 ⟨e, he⟩
  scores := fun entry hentry x hx => by
    obtain ⟨f, rfl⟩ := (h.puzzles.values entry hentry).score x hx
    rfl

theorem kept : s.kept.Sized Datum.Writable :=
  ⟨h.visited, h.inventory, h.currencies, h.stats, h.flags,
    ⟨(Table.keys_mapValues Progress.kept s.puzzles).symm ▸ h.puzzles.keys,
      List.forall_mem_map.2 fun entry hentry => (h.puzzles.values entry hentry).kept⟩,
    h.timers, h.locks⟩

/-- Restoring the text of a state gives what is kept of the state. -/
theorem restoreText_kept (layout : Json.Layout) :
    ∃ text, s.toJson layout = .ok text ∧ State.restoreText text = .ok s.kept := by
  have hsame : s.toJson layout = s.kept.toJson layout := by
    unfold State.toJson
    rw [State.snapshot_kept h.restorable.answers]
  rw [hsame]
  exact h.kept.restoreText layout

end State.Sized

/-- The plain copy of an answer that can be recorded is its own plain copy.  A state that holds it as a last answer
is restored, from its snapshot and from any text of that, with all of it but the numbers that are infinite or none:
it comes back as it was just if all numbers in the answer are finite. -/
theorem recorded_answer_restored {d : Datum Amount} (hd : d.Recordable) :
    ∃ e, d.plain = .ok e ∧ e.plain = .ok e ∧
      (∀ (s : State Amount) (puzzle : String) (p : Progress Amount), s.Restorable →
        s.puzzles.get? puzzle = some p → p.lastAnswer = e →
        ∃ snapshot t q, s.snapshot = .ok snapshot ∧ State.restore snapshot = .ok t ∧
          t.puzzles.get? puzzle = some q ∧ q.lastAnswer = e.finitePart) ∧
      (∀ (s : State Amount) (puzzle : String) (p : Progress Amount) layout, s.Sized Datum.Recordable →
        s.puzzles.get? puzzle = some p → p.lastAnswer = e →
        ∃ text t q, s.toJson layout = .ok text ∧ State.restoreText text = .ok t ∧
          t.puzzles.get? puzzle = some q ∧ q.lastAnswer = e.finitePart) ∧
      (e.finitePart = e ↔ d.finitePart = d) := by
  obtain ⟨e, he, -⟩ := hd.plain
  have hagain := Datum.plain_plain he
  refine ⟨e, he, hagain, ?_, ?_, Datum.finitePart_eq_iff he⟩
  · rintro s puzzle p hs hp rfl
    obtain ⟨snapshot, hsnapshot, hrestored⟩ := State.restore_kept hs
    exact ⟨snapshot, s.kept, p.kept, hsnapshot, hrestored, State.get?_kept hp, Datum.kept_of_plain hagain⟩
  · rintro s puzzle p layout hs hp rfl
    obtain ⟨text, htext, hrestored⟩ := hs.restoreText_kept layout
    exact ⟨text, s.kept, p.kept, htext, hrestored, State.get?_kept hp, Datum.kept_of_plain hagain⟩

namespace State

/-- Halfway through a story, with an answer to the riddle. -/
def answered (answer : Datum Amount) : State Amount :=
  { halfway with puzzles := [("riddle", { attempts := 1, lastAnswer := answer })] }

theorem answered_sized {answer : Datum Amount} (h : answer.Recordable) :
    (answered answer).Sized Datum.Recordable := by
  have hhalfway := halfway_writable.sized
  have hattempts : WritableWhole 1 := writableWhole_of_lt (by decide)
  have hhints : WritableWhole 0 := writableWhole_of_lt (by decide)
  refine ⟨hhalfway.visited, hhalfway.inventory, hhalfway.currencies, hhalfway.stats, hhalfway.flags,
    ⟨List.nodup_singleton _, List.forall_mem_singleton.2 ?_⟩, hhalfway.timers, hhalfway.locks⟩
  exact ⟨hattempts, nofun, nofun, h, nofun, hhints⟩

end State

/-- An answer with a set, bytes and an empty frozen set in it comes back as the plain copy that was recorded. -/
theorem mixed_answer_restored :
    let d : Datum Amount := .seq .tuple [.seq .set [.num (.int 1), .num (.int 2)], .bytes [104, 105],
      .map [("rope", .seq .frozenSet [])], .num (.float 0.5)]
    let e : Datum Amount := .list [.list [.num (.int 1), .num (.int 2)], .text "hi", .map [("rope", .list [])],
      .num (.float 0.5)]
    let s := State.answered e
    d.Recordable ∧ d.plain = .ok e ∧ e.plain = .ok e ∧ s.Restorable ∧ s.Sized Datum.Recordable ∧
      (∃ snapshot t q, s.snapshot = .ok snapshot ∧ State.restore snapshot = .ok t ∧
        t.puzzles.get? "riddle" = some q ∧ q.lastAnswer = e) ∧
      ∀ layout, ∃ text t q, s.toJson layout = .ok text ∧ State.restoreText text = .ok t ∧
        t.puzzles.get? "riddle" = some q ∧ q.lastAnswer = e := by
  intro d e s
  have hshort : ∀ n : Int, n.natAbs < 10 → (Amount.int n).Printable := fun n hn => writableWhole_of_lt hn
  have hbytes : (String.fromUTF8? ⟨#[104, 105]⟩).isSome = true := by decide +kernel
  have hd : d.Recordable :=
    ⟨⟨hshort 1 (by decide), hshort 2 (by decide), trivial⟩, hbytes,
      ⟨List.nodup_singleton _, trivial, trivial⟩, trivial, trivial⟩
  have he : e.Recordable :=
    ⟨⟨hshort 1 (by decide), hshort 2 (by decide), trivial⟩, trivial,
      ⟨List.nodup_singleton _, trivial, trivial⟩, trivial, trivial⟩
  have hsized : s.Sized Datum.Recordable := State.answered_sized he
  obtain ⟨copy, hcopy, hagain, hsnapshot, htext, hfinite⟩ := recorded_answer_restored hd
  obtain rfl : e = copy := Except.ok.inj hcopy
  have hwhole : e.finitePart = e := hfinite.2 rfl
  rw [hwhole] at hsnapshot htext
  exact ⟨hd, hcopy, hagain, hsized.restorable, hsized,
    hsnapshot s "riddle" _ hsized.restorable rfl rfl, fun layout => htext s "riddle" _ layout hsized rfl rfl⟩

/-- An infinite answer is its own plain copy, but is restored as no answer at all. -/
theorem infinite_answer_lost :
    let d : Datum Amount := .num (.float (1.0 / 0.0))
    let s := State.answered d
    d.Recordable ∧ d.plain = .ok d ∧ d ≠ .null ∧
      (∃ snapshot t q, s.snapshot = .ok snapshot ∧ State.restore snapshot = .ok t ∧
        t.puzzles.get? "riddle" = some q ∧ q.lastAnswer = .null) ∧
      ∀ layout, ∃ text t q, s.toJson layout = .ok text ∧ State.restoreText text = .ok t ∧
        t.puzzles.get? "riddle" = some q ∧ q.lastAnswer = .null := by
  intro d s
  have hsized : s.Sized Datum.Recordable := State.answered_sized trivial
  have hlost : d.kept = .null := by
    rw [Datum.kept_of_plain (e := d) rfl, Datum.finitePart, Datum.isFinite_float, if_neg (by decide)]
  refine ⟨trivial, rfl, nofun, ?_, fun layout => ?_⟩
  · obtain ⟨snapshot, hsnapshot, hrestored⟩ := State.restore_kept hsized.restorable
    exact ⟨snapshot, s.kept, _, hsnapshot, hrestored, State.get?_kept rfl, hlost⟩
  · obtain ⟨text, htext, hrestored⟩ := hsized.restoreText_kept layout
    exact ⟨text, s.kept, _, htext, hrestored, State.get?_kept rfl, hlost⟩

end StoryRules
