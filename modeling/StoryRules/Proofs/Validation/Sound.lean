import StoryRules.Engine.Game
import StoryRules.Proofs.Validation.Resolves

/-!
# Valid stories are sound

A story that the check lets through has its ids apart and its stats in order, and all that its nodes
refer to is there.

    s.Valid language → s.Sound language      (Story.Valid.sound)
-/

namespace StoryRules

variable {α : Type} [Number α]

/-- All that a choice leads to is there. -/
structure Choice.Resolves (s : Story α) (c : Choice α) : Prop where
  next : s.hasNode c.next = true
  effects : Effect.AllResolve s c.effects

/-- All that a node refers to is there, for its puzzle with every variant as well. -/
structure Node.Resolves (language : PatternLanguage) (s : Story α) (n : Node α) : Prop where
  entry : Effect.AllResolve s n.onEnterEffects
  choice : ∀ c ∈ n.choices, c.Resolves s
  puzzle : ∀ p, n.puzzle = some p → p.Resolves language s
  /-- A variant is a table: it names no field twice. -/
  variant : ∀ p, n.puzzle = some p → ∀ v ∈ p.variants, v.item.keys.Nodup →
    ∃ q, p.withVariant v = .ok q ∧ q.id = p.id ∧ q.Resolves language s

namespace Story

/-- A story without errors. -/
def Valid (language : PatternLanguage) (s : Story α) : Prop :=
  ∃ verdict, s.check language = .ok verdict ∧ verdict.valid = true

instance (language : PatternLanguage) (s : Story α) : Decidable (s.Valid language) :=
  match h : s.check language with
  | .ok verdict =>
    decidable_of_iff (verdict.valid = true) (by simp [Valid, h])
  | .error _ => isFalse (by simp [Valid, h])

/-- Ids are apart, and stats start within their bounds. -/
structure Orderly (s : Story α) : Prop where
  itemIds : (s.items.map (·.id)).Nodup
  statIds : (s.stats.map (·.id)).Nodup
  puzzleIds : (s.puzzles.map (·.2.id)).Nodup
  bounds : ∀ t ∈ s.stats, Number.atMost t.min t.start = true ∧ Number.atMost t.start t.max = true

/-- What a story without errors keeps to. -/
structure Sound (language : PatternLanguage) (s : Story α) : Prop extends s.Orderly where
  nodes : s.nodes ≠ []
  node : ∀ n ∈ s.nodes, n.Resolves language s

end Story

/-! ## Ids -/

omit [Number α] in
/-- Where ids are apart, an id finds what has it. -/
theorem find?_of_nodup {β : Type} {id : β → String} {bs : List β} (h : (bs.map id).Nodup) {b : β}
    (hb : b ∈ bs) : bs.find? (fun c => id c = id b) = some b := by
  induction bs with
  | nil => cases hb
  | cons first rest ih =>
    obtain ⟨hnew, hrest⟩ := List.nodup_cons.1 h
    rw [List.find?_cons]
    rcases List.mem_cons.1 hb with rfl | hb
    · rw [decide_eq_true rfl]
    · have hne : id first ≠ id b := fun heq => hnew (heq ▸ List.mem_map_of_mem hb)
      rw [decide_eq_false hne]
      exact ih hrest hb

omit [Number α] in
/-- Where the ids of puzzles are apart, an id belongs to one puzzle. -/
theorem Story.puzzle_unique {s : Story α} (h : (s.puzzles.map (·.2.id)).Nodup) {n n' : Node α}
    (hn : n ∈ s.nodes) (hn' : n' ∈ s.nodes) {p p' : Puzzle α} (hp : n.puzzle = some p)
    (hp' : n'.puzzle = some p') (hid : p.id = p'.id) : p = p' := by
  have mem : ∀ {n : Node α} {p : Puzzle α}, n ∈ s.nodes → n.puzzle = some p → (n, p) ∈ s.puzzles := by
    intro n p hn hp
    exact List.mem_filterMap.2 ⟨n, hn, by rw [hp]; rfl⟩
  have hfind := find?_of_nodup h (mem hn hp)
  have hfind' := find?_of_nodup h (mem hn' hp')
  dsimp only at hfind hfind'
  rw [hid, hfind'] at hfind
  cases hfind
  rfl

/-! ## Nodes -/

namespace Node

variable {language : PatternLanguage} {s : Story α} {n : Node α}

theorem choice_resolves {index : Nat} {c : Choice α} (h : Passes (n.choiceFlaws s index c)) :
    c.Resolves s := by
  obtain ⟨hnext, heffects, -⟩ := choice_meets h
  exact ⟨Passes.present hnext rfl, Effect.all_resolve (.choiceEffects n.id index) heffects⟩

theorem puzzle_resolves {p : Puzzle α} (h : Passes (p.flaws language s)) : p.Resolves language s := by
  obtain ⟨houtcome, hpattern⟩ := Puzzle.own_resolves (Puzzle.flaws_meet h).1
  exact ⟨fun success o ho => houtcome success o rfl ho, hpattern rfl⟩

theorem resolves [FaithfulNumber α] (h : Passes (n.flaws language s)) : n.Resolves language s := by
  obtain ⟨hentry, hchoices, hpuzzle⟩ := flaws_meet h
  refine ⟨Effect.all_resolve (.onEnter n.id) hentry, fun c hc => ?_, fun p hp => ?_,
    fun p hp v hv hkeys => ?_⟩
  · obtain ⟨index, hchoice⟩ := hchoices c hc
    exact choice_resolves hchoice
  · exact puzzle_resolves (hpuzzle p hp)
  · obtain ⟨index, hvariant⟩ := (Puzzle.flaws_meet (hpuzzle p hp)).2.2 v hv
    exact Puzzle.variant_resolves (puzzle_resolves (hpuzzle p hp)) hkeys hvariant

end Node

/-! ## Stories -/

namespace Story

variable {language : PatternLanguage} {s : Story α}

theorem repeated_eq_nil {ids : List String} : ∀ seen : List String, repeated seen ids = [] →
    ids.Nodup ∧ ∀ id ∈ ids, id ∉ seen := by
  induction ids with
  | nil => simp
  | cons first rest ih =>
    intro seen h
    rw [repeated] at h
    split at h
    · cases h
    · next hnew =>
      rw [List.contains_eq_mem, decide_eq_true_eq] at hnew
      obtain ⟨hrest, hseen⟩ := ih _ h
      refine ⟨List.nodup_cons.2 ⟨fun hmem => hseen first hmem List.mem_cons_self, hrest⟩, ?_⟩
      intro id hid
      rcases List.mem_cons.1 hid with rfl | hid
      · exact hnew
      · exact fun hmem => hseen id hid (List.mem_cons_of_mem _ hmem)

omit [Number α] in
theorem nodup_of_duplicates {kind : String} {ids : List String}
    (h : Passes (.ok (duplicates kind ids))) : ids.Nodup := by
  refine (repeated_eq_nil [] ?_).1
  cases hrepeated : repeated [] ids with
  | nil => rfl
  | cons id rest =>
    have hwarning := h.of_ok (Flaw.duplicate kind id) (by simp [duplicates, hrepeated])
    cases hwarning

theorem bounds_of_statFlaws {t : Stat α} (h : Passes (statFlaws t)) :
    Number.atMost t.min t.start = true ∧ Number.atMost t.start t.max = true := by
  unfold statFlaws at h
  split at h
  · obtain ⟨low, -, h⟩ := Passes.bind h
    obtain ⟨high, -, h⟩ := Passes.bind h
    exact (h.not_single rfl).elim
  · split at h
    · next hbounds => exact Bool.and_eq_true_iff.1 hbounds
    · obtain ⟨start, -, h⟩ := Passes.bind h
      obtain ⟨low, -, h⟩ := Passes.bind h
      obtain ⟨high, -, h⟩ := Passes.bind h
      exact (h.not_single rfl).elim

theorem Valid.passes (h : s.Valid language) : Passes (s.flaws language) := by
  obtain ⟨verdict, hverdict, hvalid⟩ := h
  obtain ⟨flaws, hflaws, hverdict⟩ : ∃ flaws, s.flaws language = .ok flaws ∧
      verdict = .ofFlaws flaws := by
    unfold check at hverdict
    cases hflaws : s.flaws language with
    | error fault =>
      rw [hflaws] at hverdict
      cases hverdict
    | ok flaws =>
      rw [hflaws] at hverdict
      cases hverdict
      exact ⟨flaws, rfl, rfl⟩
  subst hverdict
  refine ⟨flaws, hflaws, ?_⟩
  simpa [Verdict.valid, Verdict.ofFlaws] using hvalid

theorem Valid.orderly (h : s.Valid language) : s.Orderly := by
  have hpass := h.passes
  unfold flaws at hpass
  obtain ⟨stats, hstats, hpass⟩ := Meets.bind hpass
  obtain ⟨nodes, -, hpass⟩ := Meets.bind hpass
  have hfront := hpass.left.left.left
  have hids : Passes (.ok s.idFlaws) := hfront.left.right
  unfold idFlaws at hids
  refine ⟨?_, ?_, ?_, fun t ht => ?_⟩
  · exact nodup_of_duplicates hids.left.left.left.right
  · exact nodup_of_duplicates hids.left.left.right
  · exact nodup_of_duplicates hids.right
  · exact bounds_of_statFlaws (Meets.mapM hstats hfront.right t ht)

theorem Valid.nodeIds (h : s.Valid language) : (s.nodes.map (·.id)).Nodup := by
  have hpass := h.passes
  unfold flaws at hpass
  obtain ⟨stats, -, hpass⟩ := Meets.bind hpass
  obtain ⟨nodes, -, hpass⟩ := Meets.bind hpass
  have hids : Passes (.ok s.idFlaws) := hpass.left.left.left.left.right
  unfold idFlaws at hids
  exact nodup_of_duplicates hids.left.left.left.left.left

theorem Valid.nodes_ne_nil (h : s.Valid language) : s.nodes ≠ [] := by
  have hpass := h.passes
  unfold flaws at hpass
  obtain ⟨stats, -, hpass⟩ := Meets.bind hpass
  obtain ⟨nodes, -, hpass⟩ := Meets.bind hpass
  have hmetadata := hpass.left.left.left.left.left
  unfold metadataFlaws at hmetadata
  have hsome := Passes.present hmetadata.right rfl
  intro hnil
  rw [hnil] at hsome
  cases hsome

theorem Valid.sound [FaithfulNumber α] (h : s.Valid language) : s.Sound language :=
  ⟨h.orderly, h.nodes_ne_nil, fun n hn => Node.resolves (nodes_meet h.passes n hn)⟩

end Story

/-! ## A valid story -/

/-- A riddle whose right answer is that of its variant. -/
def Puzzle.riddle : Puzzle Amount where
  id := "riddle"
  prompt := ""
  media := []
  timeLimit := none
  attemptsMax := some 2
  hints := []
  variants := [⟨.int 1, [("correct", .list [.whole 1])]⟩]
  success := some ⟨[.addItem "coin" 1, .addStat "luck" (.int 9)], some "end"⟩
  failure := some ⟨[.addStat "luck" (.int (-9)), .addCurrency "gold" (.int (-1))], none⟩
  gatesChoices := true
  dynamic := none
  task := .mcq ["no", "yes"] [0] false false

namespace Story

/-- A riddle whose right answer is drawn, and the end. -/
def riddle : Story Amount where
  title := "The riddle"
  language := "en"
  version := "1"
  assets := []
  items := [⟨"coin", "Coin", "misc", true, some 5, none, none⟩]
  currencies := [⟨"gold", "Gold", none⟩]
  stats := [⟨"luck", "Luck", .int 0, .int 10, .int 5⟩]
  nodes :=
    [{ id := "gate", part := 1, isEnding := false, title := "", text := "", media := []
       onEnter := none, puzzle := some .riddle
       choices := [⟨"Leave", "end", none, [.lockChoice "gate" 0], none⟩] },
     { id := "end", part := 1, isEnding := true, title := "", text := "", media := []
       onEnter := none, puzzle := none, choices := [] }]

theorem riddle_valid : riddle.Valid Pattern.language := by decide +kernel

end Story

/-- The riddle, played from its first node with the standard scorer. -/
def Setup.riddle : Setup Amount :=
  { story := .riddle, scorer := .always (Scorer.standard Pattern.language) }

end StoryRules
