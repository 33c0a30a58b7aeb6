import StoryRules.Proofs.Puzzle.Document
import StoryRules.Proofs.Requirement.Document
import StoryRules.Proofs.Validation.Sound
import StoryRules.Story.Document

/-!
# Stories read back

What a story, an expression, an effect or a puzzle writes as its document reads as the same value
again, whatever was read or left out when it was first made: every default is written out, every
union writes the tag that selects its member, and nothing that is written is changed by reading it.

    Story.read s.document = .ok s      (Story.read_document)
-/

namespace StoryRules

variable {α : Type} [Number α]

/-! ## Catalogs -/

omit [Number α] in
theorem MediaAsset.read_document (a : MediaAsset α) : read a.document = .ok a := by
  have htype : Reader.oneOf (α := α) MediaType.names (.text a.type.name) = .ok a.type := by
    cases a.type <;> rfl
  simp [read, document, Reader.object, Reader.required, Reader.optional, Table.get?_cons, htype,
    Reader.nullable_text, Reader.table_anything]

theorem Item.read_document [FaithfulNumber α] (i : Item) : read (α := α) i.document = .ok i := by
  simp [read, document, Reader.object, Reader.required, Reader.optional, Table.get?_cons,
    Reader.nullable_text, Reader.nullable_whole]

omit [Number α] in
theorem Currency.read_document (c : Currency) : read (α := α) c.document = .ok c := by
  simp [read, document, Reader.object, Reader.required, Reader.optional, Table.get?_cons,
    Reader.nullable_text]

theorem Stat.read_document (s : Stat α) : read s.document = .ok s := by
  simp [read, document, Reader.object, Reader.required, Table.get?_cons]

/-! ## Nodes -/

variable [FaithfulNumber α]

theorem Choice.read_document (c : Choice α) : read c.document = .ok c := by
  have hrequirement : Reader.nullable Requirement.read
      (Datum.ofOption Requirement.document c.requirement) = .ok c.requirement := by
    refine Reader.nullable_ofOption (fun r => ?_) fun r _ => r.read_document
    cases r <;> rintro ⟨⟩
  simp [read, document, Reader.object, Reader.required, Reader.optional, Table.get?_cons,
    hrequirement, Effect.list_read_documents, Reader.nullable_text]

namespace Node

theorem nullable_onEnterDocument (effects : Option (List (Effect α))) :
    Reader.nullable readOnEnter (Datum.ofOption onEnterDocument effects) = .ok effects := by
  refine Reader.nullable_ofOption (by rintro _ ⟨⟩) fun effects _ => ?_
  simp [readOnEnter, onEnterDocument, Reader.object, Reader.optional, Table.get?_cons,
    Effect.list_read_documents]

theorem read_document (n : Node α) : read n.document = .ok n := by
  have htype : ((Reader.nullable (Reader.oneOf endingType)
      (if n.isEnding then .text "ending" else .null : Datum α)).under (.field "type")).map
      Option.isSome = .ok n.isEnding := by
    cases n.isEnding <;> rfl
  have hmedia : Reader.list (α := α) MediaRef.read (.list (n.media.map MediaRef.document)) =
      .ok n.media :=
    Reader.list_map fun r _ => r.read_document
  have hpuzzle : Reader.nullable Puzzle.read (Datum.ofOption Puzzle.document n.puzzle) =
      .ok n.puzzle :=
    Reader.nullable_ofOption (by rintro _ ⟨⟩) fun p _ => p.read_document
  have hchoices : Reader.list Choice.read (.list (n.choices.map Choice.document)) =
      .ok n.choices :=
    Reader.list_map fun c _ => c.read_document
  simp [read, document, Reader.object, Reader.required, Reader.optional, Table.get?_cons, htype,
    hmedia, nullable_onEnterDocument, hpuzzle, hchoices]

end Node

/-! ## Stories -/

namespace Story

theorem read_document (s : Story α) : read s.document = .ok s := by
  have hassets : Reader.list MediaAsset.read (.list (s.assets.map MediaAsset.document)) =
      .ok s.assets :=
    Reader.list_map fun a _ => a.read_document
  have hitems : Reader.list (α := α) Item.read (.list (s.items.map Item.document)) = .ok s.items :=
    Reader.list_map fun i _ => i.read_document
  have hcurrencies : Reader.list (α := α) Currency.read
      (.list (s.currencies.map Currency.document)) = .ok s.currencies :=
    Reader.list_map fun c _ => c.read_document
  have hstats : Reader.list Stat.read (.list (s.stats.map Stat.document)) = .ok s.stats :=
    Reader.list_map fun t _ => t.read_document
  have hnodes : Reader.list Node.read (.list (s.nodes.map Node.document)) = .ok s.nodes :=
    Reader.list_map fun n _ => n.read_document
  simp [read, document, readFields, Reader.optional, Table.get?_cons, hassets, hitems, hcurrencies,
    hstats, hnodes]

end Story

/-- **Documents are read back.**  Stories, expressions, effects and puzzles of every kind are what their
own documents read as. -/
theorem documents_readBack :
    (∀ s : Story α, Story.read s.document = .ok s) ∧
      (∀ r : Requirement α, Requirement.read r.document = .ok r) ∧
      (∀ e : Effect α, Effect.read e.document = .ok e) ∧
      ∀ p : Puzzle α, Puzzle.read p.document = .ok p :=
  ⟨Story.read_document, Requirement.read_document, Effect.read_document, Puzzle.read_document⟩

/-- Among them are the riddle, a negated expression, a jump out of a loot table, and the puzzle. -/
theorem riddle_readBack :
    let closed : Requirement Amount := .not (.allOf [.condition (.puzzleSolved (some "pick"))])
    let jump : Effect Amount := .lootTable [⟨.int 1, [.goto "end"]⟩]
    FaithfulNumber Amount ∧ Story.read Story.riddle.document = .ok Story.riddle ∧
      Requirement.read closed.document = .ok closed ∧ Effect.read jump.document = .ok jump ∧
      Puzzle.read Puzzle.riddle.document = .ok Puzzle.riddle := by
  intro closed jump
  obtain ⟨hstory, hrequirement, heffect, hpuzzle⟩ := documents_readBack (α := Amount)
  exact ⟨inferInstance, hstory _, hrequirement closed, heffect jump, hpuzzle _⟩

end StoryRules
