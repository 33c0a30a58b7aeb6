import StoryRules.Proofs.Datum
import StoryRules.Proofs.Json.Digits
import StoryRules.Story.Load

/-!
# Reading texts of characters

Where no half of a surrogate pair stands alone, all texts that are read are texts of characters, and no value is
kept as bytes.

    paired text.toList → read text = .ok d → d.Byteless      (read_byteless)
-/

namespace StoryRules

namespace Datum

variable {α : Type}

theorem bytelessItems_iff {items : List (Datum α)} : BytelessItems items ↔ ∀ d ∈ items, d.Byteless := by
  induction items with
  | nil => exact iff_of_true trivial (List.forall_mem_nil _)
  | cons d rest ih => rw [BytelessItems, ih, List.forall_mem_cons]

theorem bytelessFields_iff {fields : Table (Datum α)} :
    BytelessFields fields ↔ ∀ entry ∈ fields, entry.2.Byteless := by
  induction fields with
  | nil => exact iff_of_true trivial (List.forall_mem_nil _)
  | cons entry rest ih => rw [BytelessFields, ih, List.forall_mem_cons]

end Datum

namespace Json

theorem paired_of_suffix {cs rest : List Char} (h : paired cs = true) (hsuffix : rest <:+ cs) :
    paired rest = true := by
  obtain ⟨before, rfl⟩ := hsuffix
  induction before with
  | nil => exact h
  | cons c before ih =>
    rw [List.cons_append, paired, Bool.and_eq_true] at h
    exact ih h.2

/-- What a reader gives within a text: it goes on in the text, and what it gives is as it should be. -/
def Gives {β : Type} (cs : List Char) (P : β → Prop) (x : Except Stop (β × Cursor)) : Prop :=
  ∀ b c, x = .ok (b, c) → P b ∧ c.rest <:+ cs

section

variable {β γ : Type} {cs : List Char} {P : β → Prop} {Q : γ → Prop}

theorem Gives.bind {x : Except Stop (β × Cursor)} {f : β × Cursor → Except Stop (γ × Cursor)} (hx : Gives cs P x)
    (hf : ∀ b c, P b → c.rest <:+ cs → Gives cs Q (f (b, c))) : Gives cs Q (x >>= f) := by
  cases x with
  | error stop => rintro _ _ ⟨⟩
  | ok result => exact hf result.1 result.2 (hx _ _ rfl).1 (hx _ _ rfl).2

theorem Gives.ok {b : β} {c : Cursor} (hb : P b) (hc : c.rest <:+ cs) : Gives cs P (.ok (b, c)) := by
  rintro _ _ ⟨⟩
  exact ⟨hb, hc⟩

theorem gives_fail (c : Cursor) (what : Expectation) : Gives cs P (c.fail what) := by rintro _ _ ⟨⟩

end

/-- The points of a text that a quote opens in a paired text. -/
theorem textPoints_gives {cs : List Char} {c : Cursor} (hpaired : paired cs = true) (h : c.rest <:+ cs)
    (hquote : c.rest.head? = some '"') :
    Gives cs (fun points => points.any isSurrogate = false) (textPoints (c.skip 1)) := by
  obtain ⟨rest, hrest⟩ : ∃ rest, c.rest = '"' :: rest := by
    cases hc : c.rest with
    | nil => rw [hc] at hquote; cases hquote
    | cons first rest => rw [hc] at hquote; cases hquote; exact ⟨rest, rfl⟩
  have hskip : (c.skip 1).rest = rest := by rw [Cursor.skip, hrest]; rfl
  have hopen := paired_of_suffix hpaired h
  rw [hrest, paired, Bool.and_eq_true] at hopen
  intro points c' hpoints
  have hwithin := textPoints_within (suffix_skip h 1)
  rw [hpoints] at hwithin
  refine ⟨?_, hwithin⟩
  unfold textPoints at hpoints
  rw [hskip] at hpoints
  cases hdecode : decode rest with
  | error problem => rw [hdecode] at hpoints; cases hpoints
  | ok result =>
    rw [hdecode] at hpoints hopen
    cases hpoints
    simpa using hopen.1

theorem numeral_byteless {c c' : Cursor} {d : Datum Amount} (h : numeral c = .ok (d, c')) : d.Byteless := by
  rw [numeral_eq] at h
  dsimp only at h
  generalize (if c.rest.head? = some '-' then c.skip 1 else c) = unsigned at h
  split at h
  · cases h
  · generalize hleft : (if (fractionOf _).isEmpty then _ else _) = left at h
    split at h
    · split at h
      · cases h
      · cases h
        trivial
    · cases h
      trivial

theorem words_byteless : ∀ word ∈ words, word.2.Byteless := by
  simp [words, Datum.Byteless]

theorem atom_gives {cs : List Char} {c : Cursor} (h : c.rest <:+ cs) : Gives cs Datum.Byteless (atom c) := by
  intro d c' hatom
  have hwithin := atom_within h
  rw [hatom] at hwithin
  refine ⟨?_, hwithin⟩
  unfold atom at hatom
  split at hatom
  · next word value hword =>
    cases hatom
    exact words_byteless _ (List.mem_of_find?_eq_some hword)
  · exact numeral_byteless hatom

theorem textDatum_byteless {points : List ℕ} (h : points.any isSurrogate = false) : (textDatum points).Byteless := by
  rw [textDatum, h]
  trivial

mutual

theorem value_gives {cs : List Char} (hpaired : paired cs = true) (fuel : ℕ) {c : Cursor} (h : c.rest <:+ cs) :
    Gives cs Datum.Byteless (value fuel c) := by
  cases fuel with
  | zero => exact gives_fail c _
  | succ fuel =>
    rw [value]
    split
    · next rest hrest =>
      exact (textPoints_gives hpaired h (by rw [hrest]; rfl)).bind fun _ _ hpoints h =>
        .ok (textDatum_byteless hpoints) h
    · dsimp only
      have hopen := suffix_skipSpace (suffix_skip h 1)
      split
      · exact .ok trivial (suffix_skip hopen 1)
      · refine (members_gives hpaired fuel hopen).bind fun entries _ hentries h => .ok ?_ h
        exact Datum.bytelessFields_iff.2 fun entry hentry => hentries entry (Table.mem_ofEntries hentry)
    · dsimp only
      have hopen := suffix_skipSpace (suffix_skip h 1)
      split
      · exact .ok trivial (suffix_skip hopen 1)
      · exact (elements_gives hpaired fuel hopen).bind fun items _ hitems h => .ok (Datum.bytelessItems_iff.2 hitems) h
    · exact atom_gives h

theorem members_gives {cs : List Char} (hpaired : paired cs = true) (fuel : ℕ) {c : Cursor} (h : c.rest <:+ cs) :
    Gives cs (fun entries : List (String × Datum Amount) => ∀ entry ∈ entries, entry.2.Byteless) (members fuel c) := by
  cases fuel with
  | zero => exact gives_fail c _
  | succ fuel =>
    rw [members]
    split
    · exact gives_fail c _
    · next hquote =>
      refine (textPoints_gives hpaired h (not_not.1 hquote)).bind fun points c _ h => ?_
      dsimp only
      split
      · exact gives_fail _ _
      · refine (value_gives hpaired fuel (suffix_skipSpace (suffix_skip (suffix_skipSpace h) 1))).bind
          fun d c hd h => ?_
        dsimp only
        split
        · exact .ok (List.forall_mem_singleton.2 hd) (suffix_skip (suffix_skipSpace h) 1)
        · exact (members_gives hpaired fuel (suffix_skipSpace (suffix_skip (suffix_skipSpace h) 1))).bind
            fun _ _ hentries h => .ok (List.forall_mem_cons.2 ⟨hd, hentries⟩) h
        · exact gives_fail _ _

theorem elements_gives {cs : List Char} (hpaired : paired cs = true) (fuel : ℕ) {c : Cursor} (h : c.rest <:+ cs) :
    Gives cs (fun items : List (Datum Amount) => ∀ d ∈ items, d.Byteless) (elements fuel c) := by
  cases fuel with
  | zero => exact gives_fail c _
  | succ fuel =>
    rw [elements]
    refine (value_gives hpaired fuel h).bind fun d c hd h => ?_
    dsimp only
    split
    · exact .ok (List.forall_mem_singleton.2 hd) (suffix_skip (suffix_skipSpace h) 1)
    · exact (elements_gives hpaired fuel (suffix_skipSpace (suffix_skip (suffix_skipSpace h) 1))).bind
        fun _ _ hitems h => .ok (List.forall_mem_cons.2 ⟨hd, hitems⟩) h
    · exact gives_fail _ _

end

/-- A paired text holds no bytes. -/
theorem read_byteless {text : String} {d : Datum Amount} (hpaired : paired text.toList = true)
    (h : read text = .ok d) : d.Byteless := by
  have hstart : (Cursor.mk text.toList 0).skipSpace.rest <:+ text.toList :=
    suffix_skipSpace (c := ⟨text.toList, 0⟩) (List.suffix_refl _)
  have hgives := value_gives hpaired (2 * text.toList.length + 2) hstart
  have hdocument : document text.toList = .ok d := by
    unfold read at h
    split at h
    · next hok => rwa [Except.ok.inj h] at hok
    · cases h
  unfold document at hdocument
  split at hdocument
  · cases hdocument
  · rcases hvalue : value (2 * text.toList.length + 2) (Cursor.mk text.toList 0).skipSpace with stop | ⟨e, c⟩
    · rw [hvalue] at hdocument
      cases hdocument
    · rw [hvalue] at hdocument
      change (if c.skipSpace.rest.isEmpty then _ else _) = _ at hdocument
      split at hdocument
      · cases hdocument
        exact (hgives _ _ hvalue).1
      · cases hdocument

end Json

/-- What stands at a path is a file whose text, if it has one, has no half of a surrogate pair alone, or no file. -/
def FileContent.Paired : FileContent → Prop
  | .missing | .unreadable => True
  | .bytes bs => ∀ text, String.fromUTF8? ⟨bs.toArray⟩ = some text → Json.paired (unifyNewlines text.toList) = true

theorem readDocument_byteless {content : FileContent} (h : content.Paired) {path : String} {d : Datum Amount}
    (hread : readDocument path content = .ok d) : d.Byteless := by
  cases content with
  | missing | unreadable => cases hread
  | bytes bs =>
    unfold readDocument at hread
    dsimp only at hread
    split at hread
    · cases hread
    · next text htext =>
      split at hread
      · next hok =>
        rw [Except.ok.inj hread] at hok
        exact Json.read_byteless (by rw [String.toList_ofList]; exact h text htext) hok
      · cases hread

end StoryRules
