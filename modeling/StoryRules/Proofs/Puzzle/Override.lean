import StoryRules.Proofs.Puzzle.Variant
import StoryRules.Proofs.Schema.Codec

/-!
# Overriding twice

A puzzle is read from its document slot by slot, and so is what comes of it when some fields are overridden: a slot that
is not named reads what the puzzle wrote there itself.  Overriding the same fields of the result again puts back what
was there before they were read, and so gives the result once more.

    p.withVariant v = .ok q → v.item.has "kind" = false → v.item.has name = false →
      q.fields.get? name = p.fields.get? name                                             (withVariant_frame)
-/

namespace StoryRules

variable {α : Type} [Number α]

namespace Puzzle

/-! ## Codecs -/

namespace Codecs

-- Each is an abbreviation, so that `Codec.read` of it is the reader of the library by unfolding alone.

abbrev steps : Codec α (List TextStep) := ⟨Reader.list (Reader.oneOf stepNames), _, list_steps⟩

abbrev gender : Codec α Gender :=
  ⟨Reader.oneOf genders, fun gender => .text gender.article, fun gender => by cases gender <;> rfl⟩

abbrev grammaticalCase : Codec α (Option GrammaticalCase) :=
  Codec.nullable ⟨Reader.oneOf cases, fun c => .text c.name, fun c => by cases c <;> rfl⟩ (by rintro _ ⟨⟩)

abbrev blank : Codec α (Blank α) := ⟨readBlank, blankDocument, read_blankDocument⟩

abbrev area : Codec α (Area α) := ⟨readArea, areaDocument, read_areaDocument⟩

abbrev media : Codec α MediaRef := ⟨MediaRef.read, MediaRef.document, MediaRef.read_document⟩

abbrev variant : Codec α (Variant α) := ⟨readVariant, variantDocument, read_variantDocument⟩

variable [FaithfulNumber α]

abbrev indexPair : Codec α (Int × Int) :=
  ⟨Reader.pair Reader.whole, fun p => .seq .tuple [.whole p.1, .whole p.2], fun p => by simp [Reader.pair]⟩

abbrev outcome : Codec α (Option (Outcome α)) := ⟨Reader.nullable readOutcome, _, nullable_outcomeDocument⟩

abbrev dynamic : Codec α (Option (Dynamic α)) := ⟨Reader.nullable readDynamic, _, nullable_dynamicDocument⟩

abbrev limit : Codec α (Option Int) := Codec.whole.nullable (by rintro _ ⟨⟩)

end Codecs

/-! ## Slots -/

section

variable [FaithfulNumber α]

/-- The fields of a task. -/
def taskSlots : PuzzleKind → Slots α
  | .mcq =>
    [Codec.text.list.needed "options", Codec.whole.list.needed "correct", Codec.truth.withDefault "multiple" false,
     Codec.truth.withDefault "shuffle" false]
  | .text => [Codec.text.list.withDefault "accepted_answers" [], Codecs.steps.withDefault "normalize" []]
  | .regex => [Codec.text.needed "pattern", Codec.text.withDefault "flags" ""]
  | .numeric => [Codec.amount.needed "answer", Codec.amount.withDefault "tolerance" (Number.whole 0)]
  | .articleDe =>
    [Codec.text.needed "noun", Codecs.gender.needed "gender", Codecs.grammaticalCase.withDefault "case" none]
  | .clozeText =>
    [Codecs.blank.list.needed "blanks", Codec.truth.withDefault "shuffle_blanks" false,
     Codec.truth.withDefault "partial_scoring" true]
  | .matching =>
    [Codec.text.list.needed "left", Codec.text.list.needed "right", Codecs.indexPair.list.needed "pairs",
     Codec.truth.withDefault "shuffle" false, Codec.truth.withDefault "partial_scoring" true]
  | .ordering =>
    [Codec.text.list.needed "options", Codec.whole.list.needed "correct_order",
     Codec.truth.withDefault "partial_scoring" true]
  | .hotspot => [Codecs.area.list.needed "areas", Codec.truth.withDefault "allow_multiple" false]

/-- A task is read just if its slots make its fields of the document. -/
theorem fills_taskSlots_iff {fields : Table (Datum α)} {task : Task α} :
    Fills fields (taskSlots task.kind) (taskFields task) ↔ readTask fields task.kind = .ok task := by
  cases task with
  | mcq =>
    refine .trans (Fills.needed_iff (Fills.needed_iff (Fills.default_iff Fills.last_iff))) ?_
    simp [readTask, Task.kind, Checked.seq_eq_ok, Checked.map_eq_ok, and_assoc, -Bool.exists_bool]
  | text =>
    refine .trans (Fills.default_iff Fills.last_iff) ?_
    simp [readTask, Task.kind, Checked.seq_eq_ok, Checked.map_eq_ok, and_assoc]
  | regex | numeric | hotspot =>
    refine .trans (Fills.needed_iff Fills.last_iff) ?_
    simp [readTask, Task.kind, Checked.seq_eq_ok, Checked.map_eq_ok, and_assoc, -Bool.exists_bool]
  | articleDe | ordering =>
    refine .trans (Fills.needed_iff (Fills.needed_iff Fills.last_iff)) ?_
    simp [readTask, Task.kind, Checked.seq_eq_ok, Checked.map_eq_ok, and_assoc, -Bool.exists_bool]
  | clozeText =>
    refine .trans (Fills.needed_iff (Fills.default_iff Fills.last_iff)) ?_
    simp [readTask, Task.kind, Checked.seq_eq_ok, Checked.map_eq_ok, and_assoc, -Bool.exists_bool]
  | matching =>
    refine .trans (Fills.needed_iff (Fills.needed_iff (Fills.needed_iff (Fills.default_iff Fills.last_iff)))) ?_
    simp [readTask, Task.kind, Checked.seq_eq_ok, Checked.map_eq_ok, and_assoc, -Bool.exists_bool]

/-- The fields that all kinds share, their tag apart.  Media are needed in one kind only. -/
def headerSlots : Slots α :=
  [Codec.text.needed "id", Codec.text.withDefault "prompt" "", Codecs.media.list.withDefault "media" [],
   Codecs.limit.withDefault "time_limit_ms" none, Codecs.limit.withDefault "attempts_max" none,
   Codec.text.list.withDefault "hints" [], Codecs.variant.list.withDefault "variants" [],
   Codecs.outcome.withDefault "success" none, Codecs.outcome.withDefault "failure" none,
   Codec.truth.withDefault "gate_choices_until_solved" false, Codecs.dynamic.withDefault "dynamic" none]

/-- What a puzzle writes there. -/
def header (p : Puzzle α) : Table (Datum α) :=
  [("id", .text p.id), ("prompt", .text p.prompt), ("media", .list (p.media.map MediaRef.document)),
   ("time_limit_ms", Datum.ofOption .whole p.timeLimit), ("attempts_max", Datum.ofOption .whole p.attemptsMax),
   ("hints", .texts p.hints), ("variants", .list (p.variants.map variantDocument)),
   ("success", Datum.ofOption outcomeDocument p.success), ("failure", Datum.ofOption outcomeDocument p.failure),
   ("gate_choices_until_solved", .bool p.gatesChoices), ("dynamic", Datum.ofOption dynamicDocument p.dynamic)]

omit [FaithfulNumber α] in
theorem readMedia_iff {fields : Table (Datum α)} {kind : PuzzleKind} {media : List MediaRef} :
    readMedia fields kind = .ok media ↔ (kind = .hotspot → fields.has "media" = true) ∧
      Reader.optional fields "media" [] Codecs.media.list.read = .ok media := by
  unfold readMedia
  split
  · next hkind => simp [hkind, Codecs.media.list.required_iff_optional []]
  · next hkind => simp [hkind]

theorem readTask_iff {fields : Table (Datum α)} {kind : PuzzleKind} {task : Task α} :
    readTask fields kind = .ok task ↔ task.kind = kind ∧ Fills fields (taskSlots kind) (taskFields task) := by
  constructor
  · intro h
    obtain rfl := readTask_kind _ _ _ h
    exact ⟨rfl, fills_taskSlots_iff.2 h⟩
  · rintro ⟨rfl, h⟩
    exact fills_taskSlots_iff.1 h

/-- The slots of a kind make what a puzzle writes of a document. -/
structure FilledFrom (fields : Table (Datum α)) (kind : PuzzleKind) (q : Puzzle α) : Prop where
  tag : q.kind = kind
  media : kind = .hotspot → fields.has "media" = true
  header : Fills fields headerSlots q.header
  task : Fills fields (taskSlots kind) (taskFields q.task)

theorem readFields_iff {fields : Table (Datum α)} {kind : PuzzleKind} {q : Puzzle α} :
    readFields fields kind = .ok q ↔ FilledFrom fields kind q := by
  have hheader (q : Puzzle α) : Fills fields headerSlots q.header ↔ _ :=
    Fills.needed_iff (Fills.default_iff (Fills.default_iff (Fills.default_iff (Fills.default_iff (Fills.default_iff
      (Fills.default_iff (Fills.default_iff (Fills.default_iff (Fills.default_iff Fills.last_iff)))))))))
  constructor
  · have hgives : (readFields fields kind).Gives (FilledFrom fields kind) :=
      .seq (.seq (.seq (.seq (.seq (.seq (.seq (.seq (.seq (.seq (.seq (.map fun _ hid _ hprompt _ hmedia _ htime _
        hattempts _ hhints _ hvariants _ hsuccess _ hfailure _ hgates _ hdynamic _ htask => by
          obtain ⟨hhas, hmedia⟩ := readMedia_iff.1 hmedia
          obtain ⟨hkind, htask⟩ := readTask_iff.1 htask
          exact ⟨hkind, hhas, (hheader _).2 ⟨hid, hprompt, hmedia, htime, hattempts, hhints, hvariants, hsuccess,
            hfailure, hgates, hdynamic⟩, htask⟩)))))))))))
    exact hgives q
  · rintro ⟨hkind, hhas, hfills, htask⟩
    obtain ⟨hid, hprompt, hmedia, htime, hattempts, hhints, hvariants, hsuccess, hfailure, hgates, hdynamic⟩ :=
      (hheader q).1 hfills
    simp only [readFields, hid, hprompt, readMedia_iff.2 ⟨hhas, hmedia⟩, htime, hattempts, hhints, hvariants, hsuccess,
      hfailure, hgates, hdynamic, readTask_iff.2 ⟨hkind, htask⟩, Checked.map_ok, Checked.ok_seq]

/-! ## Overriding -/

variable {p q : Puzzle α} {v : Variant α}

theorem FilledFrom.mix {fields others mixed : Table (Datum α)} {kind : PuzzleKind} (h : FilledFrom fields kind q)
    (h' : FilledFrom others kind q)
    (hmixed : ∀ name, mixed.get? name = fields.get? name ∨ mixed.get? name = others.get? name) :
    FilledFrom mixed kind q where
  tag := h.tag
  media hkind := by
    rw [Table.has_eq_isSome]
    rcases hmixed "media" with heq | heq
    · rw [heq, ← Table.has_eq_isSome, h.media hkind]
    · rw [heq, ← Table.has_eq_isSome, h'.media hkind]
  header := h.header.mix h'.header hmixed
  task := h.task.mix h'.task hmixed

theorem filledFrom_fields (p : Puzzle α) : FilledFrom p.fields p.kind p := readFields_iff.1 (readFields_fields p)

/-- What was read from the same is written in the same way. -/
theorem FilledFrom.get?_fields {fields fields' : Table (Datum α)} {kind : PuzzleKind} (h : FilledFrom fields kind p)
    (h' : FilledFrom fields' kind q) {name : String} (hsame : fields'.get? name = fields.get? name) :
    q.fields.get? name = p.fields.get? name := by
  have hheader : q.header.get? name = p.header.get? name := by rw [h.header.get?, h'.header.get?, hsame]
  have htask : (taskFields q.task).get? name = (taskFields p.task).get? name := by
    rw [h.task.get?, h'.task.get?, hsame]
  have hsplit (r : Puzzle α) : r.fields.get? name =
      (r.header.get? name).or (Table.get? (("kind", .text r.kind.name) :: taskFields r.task) name) :=
    Table.get?_append_or r.header _ name
  rw [hsplit, hsplit, hheader, h.tag, h'.tag, Table.get?_cons, Table.get?_cons, htask]

/-- In the header that holds of puzzles of two kinds as well. -/
theorem FilledFrom.get?_header {fields fields' : Table (Datum α)} {kind kind' : PuzzleKind}
    (h : FilledFrom fields kind p) (h' : FilledFrom fields' kind' q) {name : String} (hname : name ∈ headerNames)
    (hkind : name ≠ "kind") (hsame : fields'.get? name = fields.get? name) :
    q.fields.get? name = p.fields.get? name := by
  have hheader : q.header.get? name = p.header.get? name := by rw [h.header.get?, h'.header.get?, hsame]
  have hfield (r : Puzzle α) : r.fields.get? name = r.header.get? name := by
    have hnames : headerNames = r.header.keys ++ ["kind"] := rfl
    rw [hnames, List.mem_append, or_iff_left (by simpa using hkind), ← Table.has_iff, Table.has_eq_isSome] at hname
    exact (Table.get?_append_or r.header _ name).trans (Option.or_of_isSome hname)
  rw [hfield, hfield, hheader]

/-- A variant changes only what it names, and changes nothing more when it is laid over its own result. -/
theorem withVariant_frame (h : p.withVariant v = .ok q) :
    (∀ name ∈ headerNames, name ≠ "kind" → v.item.has name = false → q.fields.get? name = p.fields.get? name) ∧
      (v.item.has "kind" = false →
        q.kind = p.kind ∧ ∀ name, v.item.has name = false → q.fields.get? name = p.fields.get? name) ∧
      q.withVariant v = .ok q := by
  cases hempty : v.item.isEmpty with
  | true =>
    unfold withVariant at h
    rw [if_pos hempty] at h
    cases h
    refine ⟨fun _ _ _ _ => rfl, fun _ => ⟨rfl, fun _ _ => rfl⟩, if_pos hempty⟩
  | false =>
    have hread : ∀ r : Puzzle α, r.withVariant v = read (.map (r.fields.overlay v.item)) := fun r =>
      if_neg (ne_true_of_eq_false hempty)
    rw [hread] at h
    obtain ⟨tag, kind, htag, hkind, hfields⟩ := read_eq_ok h
    have hnew := readFields_iff.1 hfields
    have hold := filledFrom_fields p
    have hkept : ∀ {name} (r : Puzzle α), v.item.has name = false →
        (r.fields.overlay v.item).get? name = r.fields.get? name := fun r hname => Table.get?_overlay hname _
    refine ⟨fun name hname hne hout => hold.get?_header hnew hname hne (hkept p hout), fun hout => ?_, ?_⟩
    · rw [hkept p hout, get?_fields_kind] at htag
      cases htag
      rw [PuzzleKind.ofName?_name] at hkind
      cases hkind
      exact ⟨hnew.tag, fun name hname => hold.get?_fields hnew (hkept p hname)⟩
    · -- the second time a field is what it was the first time, or what was read of that
      have hmixed : ∀ name, (q.fields.overlay v.item).get? name = (p.fields.overlay v.item).get? name ∨
          (q.fields.overlay v.item).get? name = q.fields.get? name := fun name => by
        cases hname : v.item.has name with
        | true => exact .inl (Table.get?_overlay_of_has hname _ _)
        | false => exact .inr (hkept q hname)
      obtain rfl := hnew.tag
      have hagain := readFields_iff.2 (hnew.mix (filledFrom_fields q) hmixed)
      have htag' : ∃ tag, (q.fields.overlay v.item).get? "kind" = some (.text tag) ∧
          PuzzleKind.ofName? tag = some q.kind := by
        rcases hmixed "kind" with heq | heq
        · exact ⟨tag, heq.trans htag, hkind⟩
        · exact ⟨q.kind.name, heq.trans (get?_fields_kind q), PuzzleKind.ofName?_name _⟩
      obtain ⟨tag', htag', hkind'⟩ := htag'
      rw [hread]
      unfold read
      simp only [htag', hkind', hagain, Checked.under_ok]

end

/-- A puzzle and a variant that asks for something else. -/
def capital : Puzzle Amount where
  id := "capital"
  prompt := "Which is the capital?"
  media := []
  timeLimit := none
  attemptsMax := some 3
  hints := []
  variants := []
  success := none
  failure := none
  gatesChoices := false
  dynamic := none
  task := .mcq ["Bern", "Basel"] [0] false true

def largest : Variant Amount :=
  ⟨.int 1, [("prompt", .text "Which is larger?"), ("correct", .list [.text "1"])]⟩

theorem capital_frame : ∃ q, capital.withVariant largest = .ok q ∧ q.task = .mcq ["Bern", "Basel"] [1] false true ∧
    q.fields.get? "attempts_max" = capital.fields.get? "attempts_max" ∧
    q.fields.get? "shuffle" = capital.fields.get? "shuffle" ∧ q.withVariant largest = .ok q := by
  have h : capital.withVariant largest = .ok
      { capital with prompt := "Which is larger?", task := .mcq ["Bern", "Basel"] [1] false true } := rfl
  obtain ⟨hheader, hsame, hagain⟩ := withVariant_frame h
  exact ⟨_, h, rfl, hheader "attempts_max" (by decide) (by decide) rfl, (hsame rfl).2 "shuffle" rfl, hagain⟩

end Puzzle

end StoryRules
