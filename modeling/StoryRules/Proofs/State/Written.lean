import StoryRules.Proofs.Json.RoundTrip
import StoryRules.Proofs.State.Snapshot

/-!
# Saved texts give states back

A state whose numbers JSON texts can hold has a snapshot that they can hold, so restoring the snapshot, or any
text that it is written as, gives the same state again.  Outside of answers a floating number may just as well be
infinite or none.

    s.Writable → s.toJson layout = .ok text → State.restoreText text = .ok s      (snapshot_roundTrip)
-/

namespace StoryRules

/-- Each key once, and a property of every value. -/
structure Table.Each {β : Type} (P : β → Prop) (t : Table β) : Prop where
  keys : t.keys.Nodup
  values : ∀ entry ∈ t, P entry.2

/-- A record of progress with a finite score, that JSON texts can hold. -/
structure Progress.Writable (p : Progress Amount) : Prop where
  attempts : WritableWhole p.attempts
  time : ∀ n, p.timeMs = some n → WritableWhole n
  score : ∀ x, p.score = some x → ∃ f : Float, x = .float f ∧ f.isFinite = true
  answer : p.lastAnswer.Writable
  solvedAt : ∀ n, p.solvedAt = some n → WritableWhole n
  hints : WritableWhole p.hintsUsed

/-- A state that JSON texts can hold. -/
structure State.Writable (s : State Amount) : Prop where
  visited : s.visited.Nodup
  inventory : s.inventory.Each WritableWhole
  currencies : s.currencies.Each Amount.Writable
  stats : s.stats.Each Amount.Writable
  flags : s.flags.keys.Nodup
  puzzles : s.puzzles.Each Progress.Writable
  timers : s.timers.Each WritableWhole
  locks : s.lockedChoices.Each fun indices => ∀ n ∈ indices, WritableWhole n

/-- A record of progress with whole numbers that are read back, and an answer of some kind. -/
structure Progress.Sized (answer : Datum Amount → Prop) (p : Progress Amount) : Prop where
  attempts : WritableWhole p.attempts
  time : ∀ n, p.timeMs = some n → WritableWhole n
  score : ∀ x, p.score = some x → ∃ f : Float, x = .float f
  answer : answer p.lastAnswer
  solvedAt : ∀ n, p.solvedAt = some n → WritableWhole n
  hints : WritableWhole p.hintsUsed

/-- A state with distinct keys, numbers that are read back, and answers of some kind. -/
structure State.Sized (answer : Datum Amount → Prop) (s : State Amount) : Prop where
  visited : s.visited.Nodup
  inventory : s.inventory.Each WritableWhole
  currencies : s.currencies.Each Amount.Printable
  stats : s.stats.Each Amount.Printable
  flags : s.flags.keys.Nodup
  puzzles : s.puzzles.Each (Progress.Sized answer)
  timers : s.timers.Each WritableWhole
  locks : s.lockedChoices.Each fun indices => ∀ n ∈ indices, WritableWhole n

theorem Table.Each.imp {β : Type} {P Q : β → Prop} {t : Table β} (h : t.Each P) (hpq : ∀ b, P b → Q b) :
    t.Each Q :=
  ⟨h.keys, fun entry hentry => hpq _ (h.values entry hentry)⟩

/-! ## Values -/

theorem Amount.Writable.printable {x : Amount} (hx : x.Writable) : x.Printable := by
  cases x with
  | int n => exact hx
  | float f => trivial

theorem Amount.Writable.isFinite {x : Amount} (hx : x.Writable) : Number.isFinite x = true := by
  cases x with
  | int n => rfl
  | float f => exact (Datum.isFinite_float f).trans hx

namespace Datum

mutual

/-- A snapshot keeps what a JSON text can hold. -/
theorem Writable.lasts {d : Datum Amount} (hd : d.Writable) : d.Lasts := by
  cases d with
  | null => exact lasts_null
  | bool b => exact ⟨rfl, rfl⟩
  | num x => exact ⟨rfl, by rw [finitePart, if_pos hd.isFinite]⟩
  | text s => exact ⟨rfl, rfl⟩
  | bytes bs => cases hd
  | seq kind items =>
    obtain ⟨rfl, hitems⟩ := hd
    obtain ⟨hplain, hfinite⟩ := hitems.last
    exact lasts_list hplain hfinite
  | map fields =>
    obtain ⟨hplain, hfinite⟩ := hd.2.last
    exact lasts_map hplain hfinite
  | record kind fields => cases hd

theorem WritableItems.last {items : List (Datum Amount)} (h : WritableItems items) :
    plainItems items = .ok items ∧ finiteItems items = items := by
  cases items with
  | nil => exact ⟨rfl, rfl⟩
  | cons d rest =>
    obtain ⟨hplain, hfinite⟩ := h.1.lasts
    obtain ⟨hothers, hfinites⟩ := h.2.last
    constructor
    · rw [plainItems, hplain, hothers]
      rfl
    · rw [finiteItems, hfinite, hfinites]

theorem WritableFields.last {fields : List (String × Datum Amount)} (h : WritableFields fields) :
    plainFields fields = .ok fields ∧ finiteFields fields = fields := by
  cases fields with
  | nil => exact ⟨rfl, rfl⟩
  | cons field rest =>
    obtain ⟨key, d⟩ := field
    obtain ⟨hplain, hfinite⟩ := h.1.lasts
    obtain ⟨hothers, hfinites⟩ := h.2.last
    constructor
    · rw [plainFields, hplain, hothers]
      rfl
    · rw [finiteFields, hfinite, hfinites]

end

theorem Writable.printable {d : Datum Amount} (hd : d.Writable) : d.Printable := by
  unfold Printable
  rwa [hd.lasts.2]

/-! ## Tables and lists -/

theorem printableItems_iff {items : List (Datum Amount)} :
    PrintableItems items ↔ ∀ d ∈ items, d.Printable := by
  induction items with
  | nil => simp [PrintableItems, finiteItems, WritableItems]
  | cons d rest ih =>
    rw [List.forall_mem_cons, ← ih]
    rfl

theorem printableFields_iff {fields : List (String × Datum Amount)} :
    PrintableFields fields ↔ ∀ entry ∈ fields, entry.2.Printable := by
  induction fields with
  | nil => simp [PrintableFields, finiteFields, WritableFields]
  | cons entry rest ih =>
    rw [List.forall_mem_cons, ← ih]
    rfl

theorem printable_map {fields : Table (Datum Amount)} (hkeys : fields.keys.Nodup)
    (h : ∀ entry ∈ fields, entry.2.Printable) : (map fields).Printable :=
  ⟨(keys_finiteFields fields).symm ▸ hkeys, printableFields_iff.2 h⟩

theorem printable_list {β : Type} {write : β → Datum Amount} {bs : List β}
    (h : ∀ b ∈ bs, (write b).Printable) : (list (bs.map write)).Printable :=
  ⟨rfl, printableItems_iff.2 (List.forall_mem_map.2 h)⟩

theorem printable_mapValues {β : Type} {P : β → Prop} {t : Table β} {write : β → Datum Amount}
    (h : t.Each P) (hwrite : ∀ b, P b → (write b).Printable) : (map (t.mapValues write)).Printable := by
  refine printable_map ((Table.keys_mapValues write t).symm ▸ h.keys) ?_
  exact List.forall_mem_map.2 fun entry hentry => hwrite _ (h.values entry hentry)

theorem printable_ofOption {β : Type} {write : β → Datum Amount} {b : Option β}
    (h : ∀ c, b = some c → (write c).Printable) : (ofOption write b).Printable := by
  cases b with
  | none => trivial
  | some c => exact h c rfl

theorem printable_whole {n : Int} (hn : WritableWhole n) : (whole n : Datum Amount).Printable :=
  printable_num.2 hn

end Datum

/-! ## Records and states -/

theorem Progress.Sized.savable {p : Progress Amount} (h : p.Sized Datum.Writable) : p.Savable := by
  refine ⟨h.answer.lasts, fun x hx => ?_⟩
  obtain ⟨f, rfl⟩ := h.score x hx
  rfl

theorem Progress.Sized.saved {p : Progress Amount} (h : p.Sized Datum.Writable) : p.saved.Printable := by
  have hscore : (Datum.ofOption .num p.score).Printable := by
    refine Datum.printable_ofOption fun x hx => ?_
    obtain ⟨f, rfl⟩ := h.score x hx
    exact Datum.printable_num.2 trivial
  refine Datum.printable_map ?keys ?values
  case keys =>
    show ["solved", "attempts", "time_ms", "score", "last_answer", "solved_at", "hints_used"].Nodup
    decide
  case values =>
    simp only [List.forall_mem_cons]
    exact ⟨trivial, Datum.printable_whole h.attempts,
      Datum.printable_ofOption fun n hn => Datum.printable_whole (h.time n hn), hscore, h.answer.printable,
      Datum.printable_ofOption fun n hn => Datum.printable_whole (h.solvedAt n hn),
      Datum.printable_whole h.hints, List.forall_mem_nil _⟩

namespace State.Sized

variable {s : State Amount} (h : s.Sized Datum.Writable)

include h

theorem savable : s.Savable := ⟨h.visited, fun entry hentry => (h.puzzles.values entry hentry).savable⟩

theorem savedFields : (Datum.map s.savedFields).Printable := by
  have htimer : ∀ n, WritableWhole n → (State.timerDocument n : Datum Amount).Printable := fun n hn =>
    Datum.printable_map (List.nodup_singleton _) (List.forall_mem_singleton.2 (Datum.printable_whole hn))
  have hlock : ∀ indices : List Int, (∀ n ∈ indices, WritableWhole n) →
      (State.lockDocument indices : Datum Amount).Printable := fun indices hindices =>
    Datum.printable_list fun n hn => Datum.printable_whole (hindices n hn)
  have hflags : s.flags.Each fun _ => True := ⟨h.flags, fun _ _ => trivial⟩
  refine Datum.printable_map ?keys ?values
  case keys =>
    show ["current_node_id", "visited", "inventory", "currencies", "stats", "flags", "puzzles", "timers",
      "locked_choices"].Nodup
    decide
  case values =>
    unfold State.savedFields
    simp only [List.forall_mem_cons]
    exact ⟨trivial, Datum.printable_list fun _ _ => trivial,
      Datum.printable_mapValues h.inventory fun _ hn => Datum.printable_whole hn,
      Datum.printable_mapValues h.currencies fun _ hx => Datum.printable_num.2 hx,
      Datum.printable_mapValues h.stats fun _ hx => Datum.printable_num.2 hx,
      Datum.printable_mapValues hflags fun _ _ => trivial,
      Datum.printable_mapValues h.puzzles fun _ hp => hp.saved,
      Datum.printable_mapValues h.timers htimer, Datum.printable_mapValues h.locks hlock,
      List.forall_mem_nil _⟩

/-- The snapshot is read back from every text that it is written as. -/
theorem restoreText (layout : Json.Layout) :
    ∃ text, s.toJson layout = .ok text ∧ State.restoreText text = .ok s := by
  have hsnapshot : s.snapshot = .ok (.map s.savedFields) := by
    unfold State.snapshot
    rw [h.savable.snapshotFields]
    rfl
  obtain ⟨d, hd, hrestored⟩ := State.restore_snapshot h.savable
  obtain rfl : Datum.map s.savedFields = d := Except.ok.inj (hsnapshot.symm.trans hd)
  refine ⟨Json.print layout (.map s.savedFields), ?_, ?_⟩
  · unfold State.toJson
    rw [hsnapshot]
    rfl
  · unfold State.restoreText
    rw [Json.read_print layout h.savedFields]
    exact hrestored

end State.Sized

theorem Progress.Writable.sized {p : Progress Amount} (h : p.Writable) : p.Sized Datum.Writable :=
  ⟨h.attempts, h.time, fun x hx => (h.score x hx).imp fun _ hf => hf.1, h.answer, h.solvedAt, h.hints⟩

theorem State.Writable.sized {s : State Amount} (h : s.Writable) : s.Sized Datum.Writable :=
  ⟨h.visited, h.inventory, h.currencies.imp fun _ hx => hx.printable, h.stats.imp fun _ hx => hx.printable,
    h.flags, h.puzzles.imp fun _ hp => hp.sized, h.timers, h.locks⟩

/-- A state with distinct keys, numbers that JSON texts can hold and such values as last answers is restored
from its snapshot and, whatever the layout, from its text; so what is restored as such a state is restored the
same from the snapshot of it. -/
theorem State.snapshot_roundTrip {s : State Amount} (h : s.Writable) :
    (∃ d, s.snapshot = .ok d ∧ State.restore d = .ok s) ∧
    (∀ layout, ∃ text, s.toJson layout = .ok text ∧ State.restoreText text = .ok s) ∧
    (∀ d, State.restore d = .ok s → ∃ e, s.snapshot = .ok e ∧ State.restore e = State.restore d) := by
  obtain ⟨e, hsnapshot, hrestored⟩ := State.restore_snapshot h.sized.savable
  refine ⟨⟨e, hsnapshot, hrestored⟩, h.sized.restoreText, fun d hd => ⟨e, hsnapshot, ?_⟩⟩
  rw [hrestored, hd]

/-- Halfway through a story, with a riddle tried once. -/
def halfway : State Amount where
  currentNode := "cave"
  visited := ["gate", "cave"]
  inventory := [("torch", 2), ("rope", 0)]
  currencies := [("gold", .int (-3)), ("luck", .float 0.5)]
  stats := [("health", .int 9)]
  flags := [("warned", true)]
  puzzles := [("riddle", {
    attempts := 1
    timeMs := some 8
    score := some (.float 0.25)
    lastAnswer := .map [("words", .list [.text "an \"echo\"", .num (.int 4), .null])] })]
  timers := [("flood", 7)]
  lockedChoices := [("gate", [0, 1])]

theorem writableWhole_of_lt {n : Int} (hn : n.natAbs < 10) : WritableWhole n :=
  Nat.lt_of_lt_of_le hn (Nat.le_self_pow (by decide) 10)

theorem halfway_writable : halfway.Writable where
  visited := by decide
  inventory := ⟨by decide, by simp [halfway, writableWhole_of_lt]⟩
  currencies := by
    refine ⟨by decide, ?_⟩
    show ∀ entry ∈ [("gold", Amount.int (-3)), ("luck", .float 0.5)], entry.2.Writable
    rw [List.forall_mem_cons, List.forall_mem_singleton]
    have hfinite : (0.5 : Float).isFinite = true := by decide
    exact ⟨writableWhole_of_lt (by decide), hfinite⟩
  stats := ⟨by decide, List.forall_mem_singleton.2 (writableWhole_of_lt (by decide))⟩
  flags := by decide
  puzzles := by
    refine ⟨by decide, List.forall_mem_singleton.2 ?_⟩
    exact
      { attempts := writableWhole_of_lt (by decide)
        time := by simp [writableWhole_of_lt]
        score := fun x hx => ⟨0.25, (Option.some.inj hx).symm, by decide⟩
        answer := ⟨by decide, ⟨rfl, trivial, writableWhole_of_lt (by decide), trivial, trivial⟩, trivial⟩
        solvedAt := by simp
        hints := writableWhole_of_lt (by decide) }
  timers := ⟨by decide, by simp [halfway, writableWhole_of_lt]⟩
  locks := ⟨by decide, by simp [halfway, writableWhole_of_lt]⟩

theorem halfway_roundTrip : halfway.Writable ∧
    (∃ d, halfway.snapshot = .ok d ∧ State.restore d = .ok halfway) ∧
    (∀ layout, ∃ text, halfway.toJson layout = .ok text ∧ State.restoreText text = .ok halfway) ∧
    (∀ d, State.restore d = .ok halfway →
      ∃ e, halfway.snapshot = .ok e ∧ State.restore e = State.restore d) :=
  ⟨halfway_writable, State.snapshot_roundTrip halfway_writable⟩

end StoryRules
