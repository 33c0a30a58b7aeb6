import StoryRules.Proofs.Json.Digits
import StoryRules.State.Snapshot
import StoryRules.Story.Load

/-!
# Files and texts that cannot be decoded

What cannot be decoded is reported by the errors that are documented for it, but for two defects: bytes that
encode no text, and whole numbers with more digits than are read.

    ShortWholes text.toList → (∃ s, restoreText text = .ok s) ∨
      ∃ e, restoreText text = .error e ∧ e.Documented      (decoding_documented)
-/

namespace StoryRules

/-- The documented errors of reading a story: the file cannot be read, or it is said where its text, or
another one, is no JSON text. -/
def LoadError.Documented : LoadError → Prop
  | .missing _ | .unreadable _ | .notJson _ (.unexpected ..) => True
  | _ => False

/-- The documented errors of restoring a state: it is said where the text is no JSON text, or what is wrong
with the snapshot that it holds. -/
def RestoreError.Documented : RestoreError → Prop
  | .unreadable (.unexpected ..) | .notObject | .malformed _ => True
  | .unreadable (.tooManyDigits _) => False

/-- What stands at a path is a file whose text has only short whole numbers, or none at all. -/
def FileContent.Readable : FileContent → Prop
  | .missing | .unreadable => True
  | .bytes bs => ∃ text, String.fromUTF8? ⟨bs.toArray⟩ = some text ∧
    Json.ShortWholes (unifyNewlines text.toList)

theorem readDocument_documented {content : FileContent} (h : content.Readable) (path : String) :
    (∃ d, readDocument path content = .ok d) ∨
      ∃ e, readDocument path content = .error e ∧ e.Documented := by
  cases content with
  | missing => exact .inr ⟨_, rfl, trivial⟩
  | unreadable => exact .inr ⟨_, rfl, trivial⟩
  | bytes bs =>
    obtain ⟨text, htext, hshort⟩ := h
    unfold readDocument
    dsimp only
    rw [htext]
    dsimp only
    have hlines : Json.ShortWholes (String.ofList (unifyNewlines text.toList)).toList := by
      rwa [String.toList_ofList]
    rcases Json.read_of_shortWholes hlines with ⟨d, hread⟩ | ⟨what, offset, line, column, hread⟩
    · rw [hread]
      exact .inl ⟨d, rfl⟩
    · rw [hread]
      exact .inr ⟨_, rfl, trivial⟩

theorem readDocument_undecodable (path : String) (bs : List UInt8) :
    readDocument path (.bytes bs) = .error .undecodable ↔ String.fromUTF8? ⟨bs.toArray⟩ = none := by
  unfold readDocument
  dsimp only
  cases String.fromUTF8? ⟨bs.toArray⟩ with
  | none => exact ⟨fun _ => rfl, fun _ => rfl⟩
  | some text =>
    refine ⟨fun h => ?_, nofun⟩
    dsimp only at h
    split at h <;> cases h

theorem loadText_of_error (language : PatternLanguage) {text : String} {e : Json.ReadError}
    (h : Json.read text = .error e) : Story.loadText language text = (.error (.notJson none e), []) := by
  unfold Story.loadText
  rw [h]

theorem restoreText_of_error {text : String} {e : Json.ReadError} (h : Json.read text = .error e) :
    State.restoreText text = .error (.unreadable e) := by
  unfold State.restoreText
  rw [h]

theorem loadText_documented (language : PatternLanguage) {text : String}
    (h : Json.ShortWholes text.toList) :
    (∃ d, Json.read text = .ok d ∧ Story.loadText language text = Story.load language d) ∨
      ∃ e, Story.loadText language text = (.error e, []) ∧ e.Documented := by
  rcases Json.read_of_shortWholes h with ⟨d, hread⟩ | ⟨what, offset, line, column, hread⟩
  · refine .inl ⟨d, hread, ?_⟩
    unfold Story.loadText
    rw [hread]
  · exact .inr ⟨_, loadText_of_error language hread, trivial⟩

theorem restoreText_documented {text : String} (h : Json.ShortWholes text.toList) :
    (∃ s, State.restoreText text = .ok s) ∨ ∃ e, State.restoreText text = .error e ∧ e.Documented := by
  rcases Json.read_of_shortWholes h with ⟨d, hread⟩ | ⟨what, offset, line, column, hread⟩
  · unfold State.restoreText
    rw [hread]
    dsimp only
    unfold State.restore
    split
    · split
      · exact .inl ⟨_, rfl⟩
      · exact .inr ⟨_, rfl, trivial⟩
    · exact .inr ⟨_, rfl, trivial⟩
  · exact .inr ⟨_, restoreText_of_error hread, trivial⟩

/-- What a file or a text holds is read, or a documented error is given: for files that hold a text, and
for texts with no more digits to a whole number than are read.  The one other error of files is that of
bytes that encode no text. -/
theorem decoding_documented (language : PatternLanguage) :
    (∀ path (content : FileContent), content.Readable →
      (∃ d, readDocument path content = .ok d) ∨
        ∃ e, readDocument path content = .error e ∧ e.Documented) ∧
    (∀ path bs, readDocument path (.bytes bs) = .error .undecodable ↔
      String.fromUTF8? ⟨bs.toArray⟩ = none) ∧
    (∀ text : String, Json.ShortWholes text.toList →
      (∃ d, Json.read text = .ok d ∧ Story.loadText language text = Story.load language d) ∨
        ∃ e, Story.loadText language text = (.error e, []) ∧ e.Documented) ∧
    ∀ text : String, Json.ShortWholes text.toList →
      (∃ s, State.restoreText text = .ok s) ∨ ∃ e, State.restoreText text = .error e ∧ e.Documented :=
  ⟨fun path _ h => readDocument_documented h path, readDocument_undecodable,
    fun _ => loadText_documented language, fun _ => restoreText_documented⟩

/-- A text with a byte-order mark in front of it is refused with a documented error wherever it stands. -/
theorem marked_documented :
    let text := String.ofList (Char.ofNat 0xFEFF :: "[1]".toList)
    let content := FileContent.bytes text.toUTF8.data.toList
    content.Readable ∧ Json.ShortWholes text.toList ∧
      (∃ e, readDocument "story.json" content = .error e ∧ e.Documented) ∧
      (∃ e, Story.loadText Pattern.language text = (.error e, []) ∧ e.Documented) ∧
      ∃ e, State.restoreText text = .error e ∧ e.Documented := by
  intro text content
  have hshort : Json.ShortWholes text.toList := Json.shortWholes_of_length (by decide)
  have hreadable : content.Readable :=
    ⟨text, by decide +kernel, Json.shortWholes_of_length (by decide)⟩
  have hread : (Json.read text).toOption.isSome = false := by decide +kernel
  have hfile : (readDocument "story.json" content).toOption.isSome = false := by decide +kernel
  have hstate : (State.restoreText text).toOption.isSome = false := by decide +kernel
  obtain ⟨hfiles, -, htexts, hstates⟩ := decoding_documented Pattern.language
  refine ⟨hreadable, hshort, ?_, ?_, ?_⟩
  · refine (hfiles "story.json" content hreadable).resolve_left ?_
    rintro ⟨d, hd⟩
    rw [hd] at hfile
    cases hfile
  · refine (htexts text hshort).resolve_left ?_
    rintro ⟨d, hd, -⟩
    rw [hd] at hread
    cases hread
  · refine (hstates text hshort).resolve_left ?_
    rintro ⟨s, hs⟩
    rw [hs] at hstate
    cases hstate

/-- Bytes that encode no text, and a whole number with one digit too many, are given errors that are not
documented. -/
theorem decoding_undocumented :
    let digits := String.ofList (List.replicate (digitLimit + 1) '1')
    (∃ e, readDocument "story.json" (.bytes [0xff]) = .error e ∧ ¬e.Documented) ∧
    (∃ e, (Story.loadText Pattern.language digits).1 = .error e ∧ ¬e.Documented) ∧
    ∃ e, State.restoreText digits = .error e ∧ ¬e.Documented := by
  intro digits
  have hread : Json.read digits = .error (.tooManyDigits (digitLimit + 1)) := by
    have hones : Json.AllDigits (List.replicate (digitLimit + 1) '1') := by
      intro c hc
      rw [List.eq_of_mem_replicate hc]
      rfl
    have hread := Json.read_digits hones (by rw [List.head?_replicate]; decide)
      (by rw [List.length_replicate]; exact Nat.lt_succ_self _)
    rwa [List.length_replicate] at hread
  have hfile : readDocument "story.json" (.bytes [0xff]) = .error .undecodable :=
    (readDocument_undecodable "story.json" [0xff]).2 (by decide +kernel)
  exact ⟨⟨_, hfile, id⟩, ⟨_, congrArg Prod.fst (loadText_of_error Pattern.language hread), id⟩,
    ⟨_, restoreText_of_error hread, id⟩⟩

end StoryRules
