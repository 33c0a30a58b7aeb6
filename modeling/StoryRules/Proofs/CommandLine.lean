import Mathlib
import StoryRules.CommandLine
import StoryRules.Proofs.Json.Ascii
import StoryRules.Proofs.Json.Paired
import StoryRules.Proofs.Story.Decoding
import StoryRules.Proofs.Story.Load

/-!
# The commands and the loader

`validate` goes through a story file by itself and `info` leaves that to the loader.  Both end well just if the
file can be loaded and the output takes all that they print, and if it cannot be loaded both print what the loader's
error says.  What `info` prints of a story is ASCII, but `validate` prints its title as it is.

    p.exitCode takes = 0 ↔ (∃ s, loaded = .ok s) ∧ ∀ text ∈ p.prints, p.fits takes text
    ∀ e, loaded = .error e → p.prints = start ++ e.report path
-/

namespace StoryRules

/-- The texts in which an error of the loader is reported: a refusal with its errors and its warnings, in their
order, and any other error with its message. -/
def LoadError.report (path : String) : LoadError → List String
  | .refused v => ("Invalid story: " ++ path) :: v.errors.map ("  - " ++ ·) ++
    if v.warnings.isEmpty then [] else "\nWarnings:" :: v.warnings.map ("  - " ++ ·)
  | e => ["Error: " ++ e.message]

/-- The errors that the loader itself raises: the documented ones of reading, and refusals. -/
def LoadError.Own (e : LoadError) : Prop := e.Documented ∨ ∃ v, e = .refused v

namespace CommandLine

/-- The loader's own errors are reported and break nothing off. -/
theorem failed_own {e : LoadError} (he : e.Own) (path : String) :
    failed path e = { prints := e.report path, ends := .ok 1 } := by
  obtain hdocumented | ⟨v, rfl⟩ := he
  · unfold LoadError.Documented at hdocumented
    split at hdocumented
    · rfl
    · rfl
    · rfl
    · exact hdocumented.elim
  · rfl

/-! ## Processes on a story file -/

/-- A process on a story file ends as loading does.  It ends well if that gives a story, on an output that takes all
that it prints, and else it prints its first texts and then those of the loader's error. -/
structure Process.Follows (p : Process) (loaded : Except LoadError (Story Amount)) (start : List String)
    (path : String) : Prop where
  success : ∀ takes, p.exitCode takes = 0 ↔ (∃ s, loaded = .ok s) ∧ ∀ text ∈ p.prints, fits takes text = true
  failure : ∀ e, loaded = .error e → p.prints = start ++ e.report path

theorem Process.exitCode_eq_zero {takes : Char → Bool} {p : Process} :
    p.exitCode takes = 0 ↔ p.ends = .ok 0 ∧ ∀ text ∈ p.prints, fits takes text = true := by
  unfold exitCode
  rw [← List.all_eq_true]
  split
  · next hfits => cases p.ends <;> simp [hfits]
  · next hfits => simp [hfits]

/-- A process that prints a report and gives up. -/
theorem Process.Follows.of_error {p : Process} {loaded : Except LoadError (Story Amount)} {start : List String}
    {path : String} {e : LoadError} (hloaded : loaded = .error e) (hends : p.ends = .ok 1)
    (hprints : p.prints = start ++ e.report path) : p.Follows loaded start path where
  success takes := by
    rw [exitCode_eq_zero, hends, hloaded]
    exact iff_of_false (by simp) (by simp)
  failure f hf := by
    rw [hloaded, Except.error.injEq] at hf
    rw [hprints, hf]

theorem Process.Follows.of_ok {p : Process} {loaded : Except LoadError (Story Amount)} {start : List String}
    {path : String} {s : Story Amount} (hloaded : loaded = .ok s) (hends : p.ends = .ok 0) :
    p.Follows loaded start path where
  success takes := by
    rw [exitCode_eq_zero]
    exact and_congr (iff_of_true hends ⟨s, hloaded⟩) Iff.rfl
  failure f hf := by rw [hloaded] at hf; cases hf

/-- What is asked of a story file: reading it gives nothing but the documented errors, the check of its story, if
there is one, decides, and its text has no half of a surrogate pair alone. -/
structure Sound (language : PatternLanguage) (files : Files) (path : String) : Prop where
  documented : ∀ e, readDocument (plainPath path) (files (plainPath path)) = .error e → e.Documented
  decided : ∀ s, storyAt files path = .ok s → ∃ v, s.check language = .ok v
  paired : (files (plainPath path)).Paired

variable {language : PatternLanguage} {files : Files} {path : String}

/-- What the loader makes of the file at the path that a word writes. -/
def loadedAt (language : PatternLanguage) (files : Files) (path : String) :
    Except LoadError (Story Amount) :=
  (Story.loadFile language (plainPath path) (files (plainPath path))).1

/-- A story file gives one of the loader's own errors or a story whose check decides. -/
theorem Sound.storyAt_cases (h : Sound language files path) :
    (∃ e, e.Own ∧ storyAt files path = .error e ∧ loadedAt language files path = .error e) ∨
      ∃ s v, storyAt files path = .ok s ∧ s.check language = .ok v ∧
        loadedAt language files path = if v.valid then .ok s else .error (.refused v) := by
  have hdecided := h.decided
  unfold storyAt at hdecided ⊢
  unfold loadedAt Story.loadFile
  dsimp only at hdecided ⊢
  cases hdocument : readDocument (plainPath path) (files (plainPath path)) with
  | error e => exact .inl ⟨e, .inl (h.documented e hdocument), rfl, rfl⟩
  | ok d =>
    rw [hdocument] at hdecided
    rcases Story.ofDocument_refuses (d := d) with ⟨s, hs⟩ | ⟨v, hv, -⟩
    · obtain ⟨v, hv⟩ := hdecided s hs
      exact .inr ⟨s, v, hs, hv, Story.load_of_verdict hs hv⟩
    · refine .inl ⟨.refused v, .inr ⟨v, rfl⟩, hv, ?_⟩
      dsimp only
      unfold Story.load
      rw [hv]

theorem Sound.loadedAt_own (h : Sound language files path) {e : LoadError}
    (he : loadedAt language files path = .error e) : e.Own := by
  rcases h.storyAt_cases with ⟨f, hf, -, hloaded⟩ | ⟨s, v, -, -, hloaded⟩
  · cases hloaded.symm.trans he
    exact hf
  · rw [hloaded] at he
    split at he
    · cases he
    · cases he
      exact .inr ⟨v, rfl⟩

theorem Sound.validate_follows (h : Sound language files path) :
    (validate language files path).Follows (loadedAt language files path) ["Validating: " ++ path] path := by
  unfold validate
  rcases h.storyAt_cases with ⟨e, he, hstory, hloaded⟩ | ⟨s, v, hstory, hv, hloaded⟩
  · rw [hstory]
    dsimp only
    rw [failed_own he]
    exact .of_error hloaded rfl rfl
  · rw [hstory]
    dsimp only
    rw [hv]
    dsimp only
    split
    · next hvalid => exact .of_ok (hloaded.trans (if_pos hvalid)) rfl
    · next hvalid => exact .of_error (hloaded.trans (if_neg hvalid)) rfl rfl

theorem Sound.info_follows (h : Sound language files path) (rank : Nat) :
    (info language files rank path).Follows (loadedAt language files path) [] path := by
  have hown : ∀ e, loadedAt language files path = .error e → e.Own := fun e he => h.loadedAt_own he
  unfold loadedAt at hown ⊢
  unfold info
  dsimp only
  cases hloaded : (Story.loadFile language (plainPath path) (files (plainPath path))).1 with
  | error e =>
    dsimp only
    rw [failed_own (hown e hloaded)]
    exact .of_error rfl rfl rfl
  | ok s => exact .of_ok rfl rfl

/-- The metadata of a story is printed in ASCII. -/
theorem info_ascii {s : Story Amount} (hloaded : loadedAt language files path = .ok s) (rank : Nat) :
    ∀ text ∈ (info language files rank path).prints, Json.Ascii text.toList := by
  unfold loadedAt at hloaded
  unfold info
  dsimp only
  rw [hloaded]
  exact List.forall_mem_singleton.2 (Json.print_ascii _ _)

/-- What `info` prints of a story fits every output that takes ASCII, so loading alone decides how it ends there. -/
theorem Sound.info_exitCode (h : Sound language files path) (rank : Nat) {takes : Char → Bool}
    (htakes : ∀ c : Char, c.toNat < 0x80 → takes c = true) :
    (info language files rank path).exitCode takes = 0 ↔ ∃ s, loadedAt language files path = .ok s := by
  rw [(h.info_follows rank).success, and_iff_left_iff_imp]
  rintro ⟨s, hloaded⟩ text htext
  exact List.all_eq_true.2 fun c hc => htakes c (info_ascii hloaded rank text htext c hc)

/-! ## The words of a command -/

theorem classify_argument (switches : Switches) {word : String} (h : word.toList.head? ≠ some '-') :
    classify switches word = .ok (.argument word) := by
  unfold classify
  rw [if_pos (by simp [h])]

/-- Words that do not look like switches are arguments. -/
theorem classifyAll_arguments (switches : Switches) {words : List String}
    (h : ∀ word ∈ words, word.toList.head? ≠ some '-') :
    classifyAll switches words = .ok (words.map .argument) := by
  induction words with
  | nil => rfl
  | cons word rest ih =>
    have hword : word ≠ "--" := by
      rintro rfl
      exact h "--" List.mem_cons_self rfl
    unfold classifyAll
    rw [if_neg hword, classify_argument switches (h word List.mem_cons_self),
      ih fun w hw => h w (List.mem_cons_of_mem word hw)]
    rfl

/-- A command's name and a path ask for that command. -/
theorem readWords_command (c : Command) {path : String} (hpath : path.toList.head? ≠ some '-') :
    readWords [c.name, path] = .command none c path := by
  have hwords : ∀ word ∈ [c.name, path], word.toList.head? ≠ some '-' := by
    intro word hword
    rcases List.mem_pair.1 hword with rfl | rfl
    · cases c <;> decide
    · exact hpath
  have hcommand : readCommand c none [] [path] = .command none c path := by
    unfold readCommand
    rw [classifyAll_arguments commandSwitches fun w hw => hwords w (List.mem_cons_of_mem _ hw)]
    rfl
  unfold readWords
  rw [classifyAll_arguments mainSwitches hwords]
  cases c <;> exact hcommand

end CommandLine

open CommandLine in
/-- Two commands on one story file.  With words that ask for a command and its path, and a level that is known, both
end well just if the file can be loaded, `validate` on an output that takes its path, its warnings and its title and
`info` on one that takes ASCII.  If it cannot be loaded, both report the errors and the warnings of the loader's
error, text by text and in the same order, `validate` after a text of its own. -/
theorem commands_follow_loader (language : PatternLanguage) (files : Files) (path : String)
    (h : Sound language files path) :
    ∃ (validated : Process) (informed : Nat → Process),
      (∀ setting? words level rank, readWords words = .command level .validate path →
        levelRank level (Config.ofEnvironment setting?).1 = .ok rank →
        process language setting? files words = validated) ∧
      (∀ setting? words level rank, readWords words = .command level .info path →
        levelRank level (Config.ofEnvironment setting?).1 = .ok rank →
        process language setting? files words = informed rank) ∧
      validated.Follows (loadedAt language files path) ["Validating: " ++ path] path ∧
      ∀ rank, (informed rank).Follows (loadedAt language files path) [] path ∧
        ∀ takes, (∀ c : Char, c.toNat < 0x80 → takes c = true) →
          ((informed rank).exitCode takes = 0 ↔ ∃ s, loadedAt language files path = .ok s) := by
  refine ⟨validate language files path, fun rank => info language files rank path,
    fun setting? words level rank hwords hlevel => ?_, fun setting? words level rank hwords hlevel => ?_,
    h.validate_follows, fun rank => ⟨h.info_follows rank, fun _ => h.info_exitCode rank⟩⟩
  all_goals
    unfold process
    rw [hwords]
    dsimp only
    rw [hlevel]

namespace CommandLine

/-- A file with a document. -/
def fileOf (document : Datum Amount) : FileContent := .bytes (Json.print none document).toUTF8.data.toList

/-- A cave and an attic that nothing leads to, without a title, a language or a version. -/
def caveFile : FileContent :=
  fileOf (.map [("nodes", .list [.map [("id", .text "cave")],
    .map [("id", .text "attic"), ("type", .text "ending")]])])

/-- The errors and the warning of the cave. -/
def caveVerdict : Verdict where
  errors := ["title", "language", "version"].map ("Missing required field: " ++ ·)
  warnings := ["Node 'attic' is not referenced by any choice, outcome or goto"]

theorem eq_ok_of_toOption {ε β : Type} {x : Except ε β} {b : β} (h : x.toOption = some b) : x = .ok b := by
  cases x with
  | error e => cases h
  | ok c =>
    cases h
    rfl

/-- A file whose story is read and checked is one that commands follow the loader on. -/
theorem Sound.of_verdict {v : Verdict}
    (hverdict : ((storyAt files path).toOption.bind fun s => (s.check language).toOption) = some v)
    (hpaired : (files (plainPath path)).Paired) : Sound language files path ∧
      ∃ s, storyAt files path = .ok s ∧
        loadedAt language files path = if v.valid then .ok s else .error (.refused v) := by
  obtain ⟨s, hstory, hcheck⟩ := Option.bind_eq_some_iff.1 hverdict
  replace hstory := eq_ok_of_toOption hstory
  replace hcheck := eq_ok_of_toOption hcheck
  have hsound : Sound language files path := {
    documented := fun e he => by
      unfold storyAt at hstory
      dsimp only at hstory
      rw [he] at hstory
      cases hstory
    decided := fun t ht => by
      cases hstory.symm.trans ht
      exact ⟨v, hcheck⟩
    paired := hpaired }
  refine ⟨hsound, s, hstory, ?_⟩
  rcases hsound.storyAt_cases with ⟨e, -, he, -⟩ | ⟨t, w, ht, hw, hloaded⟩
  · cases hstory.symm.trans he
  · cases hstory.symm.trans ht
    cases hcheck.symm.trans hw
    exact hloaded

theorem paired_of_all {bs : List UInt8} (h : ((String.fromUTF8? ⟨bs.toArray⟩).all fun text =>
    Json.paired (unifyNewlines text.toList)) = true) : (FileContent.bytes bs).Paired := by
  intro text htext
  rwa [htext] at h

theorem cave_loads : ∀ path ∈ ["cave.json", "-h"], Sound Pattern.language (fun _ => caveFile) path ∧
    loadedAt Pattern.language (fun _ => caveFile) path = .error (.refused caveVerdict) := by
  intro path hpath
  have hverdict : ((storyAt (fun _ => caveFile) path).toOption.bind fun s =>
      (s.check Pattern.language).toOption) = some caveVerdict := by
    rcases List.mem_pair.1 hpath with rfl | rfl <;> decide +kernel
  obtain ⟨hsound, s, -, hloaded⟩ := Sound.of_verdict hverdict (paired_of_all (by decide +kernel))
  exact ⟨hsound, hloaded⟩

end CommandLine

open CommandLine in
/-- Both commands refuse the cave. -/
theorem commands_refuse_cave :
    let report := "Invalid story: cave.json" :: (caveVerdict.errors.map ("  - " ++ ·) ++
      "\nWarnings:" :: caveVerdict.warnings.map ("  - " ++ ·))
    let validated := process Pattern.language (fun _ => none) (fun _ => caveFile) ["validate", "cave.json"]
    let informed := process Pattern.language (fun _ => none) (fun _ => caveFile) ["info", "cave.json"]
    Sound Pattern.language (fun _ => caveFile) "cave.json" ∧
      validated.prints = "Validating: cave.json" :: report ∧ validated.exitCode (fun _ => true) ≠ 0 ∧
      informed.prints = report ∧ informed.exitCode (fun _ => true) ≠ 0 := by
  intro report validated informed
  obtain ⟨hsound, hloaded⟩ := cave_loads "cave.json" List.mem_cons_self
  have hlevel : levelRank none (Config.ofEnvironment fun _ => none).1 = .ok 30 :=
    eq_ok_of_toOption (by decide +kernel)
  have hwords : ∀ c : Command, readWords [c.name, "cave.json"] = .command none c "cave.json" :=
    fun c => readWords_command c (by decide)
  have hrefused : ¬ ∃ s, loadedAt Pattern.language (fun _ => caveFile) "cave.json" = .ok s := by
    rw [hloaded]
    simp
  obtain ⟨validated', informed', hvalidate, hinfo, hvalidated, hinformed⟩ :=
    commands_follow_loader Pattern.language (fun _ => caveFile) "cave.json" hsound
  have hvalidate : validated = validated' := hvalidate _ _ none 30 (hwords .validate) hlevel
  have hinfo : informed = informed' 30 := hinfo _ _ none 30 (hwords .info) hlevel
  rw [hvalidate, hinfo]
  exact ⟨hsound, hvalidated.failure _ hloaded, fun hexit => hrefused ((hvalidated.success _).1 hexit).1,
    (hinformed 30).1.failure _ hloaded, fun hexit => hrefused (((hinformed 30).1.success _).1 hexit).1⟩

namespace CommandLine

/-- A cave with a title that is not ASCII. -/
def titledFile : FileContent :=
  fileOf (.map [("title", .text "é"), ("language", .text "fr"), ("version", .text "1"),
    ("nodes", .list [.map [("id", .text "cave")]])])

theorem titled_loads : Sound Pattern.language (fun _ => titledFile) "cave.json" ∧
    ∃ s, loadedAt Pattern.language (fun _ => titledFile) "cave.json" = .ok s := by
  have hverdict : ((storyAt (fun _ => titledFile) "cave.json").toOption.bind fun s =>
      (s.check Pattern.language).toOption) = some ⟨[], []⟩ := by decide +kernel
  obtain ⟨hsound, s, -, hloaded⟩ := Sound.of_verdict hverdict (paired_of_all (by decide +kernel))
  exact ⟨hsound, s, hloaded⟩

end CommandLine

open CommandLine in
/-- A word for a path may ask for help, the environment for a level that is not known, and a title may have a
character that the output does not take: then the commands do not end as loading does, and not both alike. -/
theorem commands_miss_loader :
    let ascii := fun c : Char => decide (c.toNat < 0x80)
    let exitCode := fun (setting : Option String) (file : FileContent) (takes : Char → Bool) (words : List String) =>
      (process Pattern.language (fun _ => setting) (fun _ => file) words).exitCode takes
    (loadedAt Pattern.language (fun _ => caveFile) "-h" = .error (.refused caveVerdict) ∧
      exitCode none caveFile (fun _ => true) ["validate", "-h"] = 0 ∧
      exitCode none caveFile (fun _ => true) ["info", "-h"] = 0) ∧
    (∃ s, loadedAt Pattern.language (fun _ => titledFile) "cave.json" = .ok s) ∧
      (exitCode (some "loud") titledFile (fun _ => true) ["validate", "cave.json"] = 1 ∧
        exitCode (some "loud") titledFile (fun _ => true) ["info", "cave.json"] = 1) ∧
      exitCode none titledFile ascii ["validate", "cave.json"] = 1 ∧
      exitCode none titledFile ascii ["info", "cave.json"] = 0 := by
  intro ascii exitCode
  have hhelp := (cave_loads "-h" (List.mem_cons_of_mem _ List.mem_cons_self)).2
  refine ⟨⟨hhelp, ?_, ?_⟩, titled_loads.2, ⟨?_, ?_⟩, ?_, ?_⟩ <;> decide +kernel

end StoryRules
