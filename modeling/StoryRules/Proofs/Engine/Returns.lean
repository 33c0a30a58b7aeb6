import Mathlib
import StoryRules.Engine.Operations
import StoryRules.Proofs.Amount
import StoryRules.Proofs.Datum
import StoryRules.Proofs.Engine.Progress
import StoryRules.Proofs.Engine.Protocol
import StoryRules.Proofs.Engine.Succeeds
import StoryRules.Proofs.Validation.Sound

/-!
# Moves return

From whatever state is loaded, moves return, as long as the amounts of the story are whole numbers that a
floating number can hold.  Two things are left that can stop a move.  A state may say that fewer than no hints
were shown, and where it is less by more than the puzzle has hints, the next one is not there.  And a number
that a move, the story or a state names may be too long to be written.

    setup.story.AmountsIn Fits WeighTogether →
      every turn after a state was loaded has no fault, or is a hint that is out of reach, or there is a
      number too long for a message      (play_returns)
-/

namespace StoryRules

variable {α : Type}

/-- The fault that a move met, if it did not return. -/
def Turn.fault? (turn : Turn α) : Option Fault :=
  match turn.reply with
  | .ok _ => none
  | .error fault => some fault

theorem Turn.fault?_eq_some {turn : Turn α} {fault : Fault} :
    turn.fault? = some fault ↔ turn.reply = .error fault := by
  unfold fault?
  cases turn.reply <;> simp

/-- No answer has bytes in it. -/
def Move.IsByteless : Move α → Prop
  | .solve answer _ => answer.Byteless
  | _ => True

variable [Number α]

/-- The number that a move names can be written. -/
def Move.Legible : Move α → Prop
  | .choose index => Number.Legible (Number.whole index : α)
  | _ => True

/-- A state does not say of a puzzle with hints that fewer were shown than there are to count back. -/
def Story.HintsInReach (story : Story α) (s : State α) : Prop :=
  ∀ q, story.MayPlay q → q.hints ≠ [] → -(q.hints.length : Int) ≤ (s.progress q.id).hintsUsed

theorem Story.HintsInReach.leads {story : Story α} {s after : State α} (h : story.HintsInReach s)
    (hleads : s.LeadsTo after) : story.HintsInReach after :=
  fun q hq hhints => Int.le_trans (h q hq hhints) (hleads.records q.id).hintsUsed

/-- The puzzle in play is one that the story may put there. -/
def staged (story : Story α) : Invariant α := .on (fun _ => True) story.MayPlay

variable {setup : Setup α} {g : Game α}

theorem staged_upheld : (staged setup.story).Upheld setup :=
  Invariant.on_upheld (fun _ _ _ h => h) (fun _ _ _ h _ => h)
    (fun n hn p hp => ⟨n, hn, p, hp, .inl rfl⟩)
    fun n hn p hp v hv q hq => ⟨n, hn, p, hp, .inr ⟨v, hv, q, hq, rfl⟩⟩

theorem staged_bears (story : Story α) : (staged story).Bears := fun _ _ _ h => h

/-! ## Hints -/

omit [Number α] in
theorem hintAt?_isSome {hints : List String} {position : Int} (hlow : -(hints.length : Int) ≤ position)
    (hhigh : position < hints.length) : ∃ hint, hintAt? hints position = some hint := by
  unfold hintAt?
  dsimp only
  generalize hi : (if position < 0 then (hints.length : Int) + position else position) = i
  have hbounds : 0 ≤ i ∧ i < hints.length := by
    split at hi <;> omega
  rw [if_neg (by omega)]
  exact ⟨_, List.getElem?_eq_getElem (by omega)⟩

namespace Play

variable {short : Prop}

theorem showHint_succeeds {p : Puzzle α} {used : Int} {hint : String}
    (h : hintAt? p.hints used = some hint) :
    Succeeds (Game.Legible short setup.story) (showHint p used) := by
  unfold showHint
  rw [h]
  exact (setProgress_succeeds _ _).bind fun _ => emitState_succeeds.bind fun _ => .pure hint

omit [Number α] in
theorem showHint_none {p : Puzzle α} {used : Int} (h : hintAt? p.hints used = none) :
    (showHint p used).run g = (.error .noSuchHint, g) := by
  unfold showHint
  rw [h]
  rfl

variable (hstory : setup.story.AmountsIn Number.Addable Draw.Drawable)

include hstory

/-- A hint is given or refused, unless it is one that is out of reach. -/
theorem hint_ends (hg : (staged setup.story).Stands g) :
    SucceedsFrom (Game.Legible short setup.story) (hint setup) g ∨
      ((hint setup).run g).1 = .error .noSuchHint ∧ ¬ setup.story.HintsInReach g.state := by
  unfold SucceedsFrom hint
  rw [Step.run_bind, Step.run_get]
  dsimp only
  split
  · exact .inl (.inl ⟨none, _, rfl, id⟩)
  · next p hp =>
    have hplay := staged_upheld.activePuzzle? hg hp
    split
    · exact .inl (.inl ⟨none, _, rfl, id⟩)
    · next hhints =>
      rw [Step.run_bind, openProgress_run]
      dsimp only
      have hopened : g.Legible short setup.story →
          Game.Legible short setup.story { g with state := g.state.openProgress p.id } :=
        fun hs => ⟨hs.short, hs.state.openProgress p.id⟩
      split
      · exact .inl (.inl ⟨none, _, rfl, hopened⟩)
      · next hused =>
        have hsucceeds : Succeeds (Game.Legible short setup.story) (payHint setup p) :=
          payHint_succeeds hstory hplay
        rw [Step.run_bind]
        obtain ⟨paid, payed, hpay, hpayed⟩ | ⟨payed, hpay, hpayed⟩ :=
          hsucceeds { g with state := g.state.openProgress p.id }
        · rw [hpay]
          cases paid with
          | false => exact .inl (.inl ⟨none, payed, rfl, fun hs => hpayed (hopened hs)⟩)
          | true =>
            simp only [ge_iff_le, Bool.or_eq_true, decide_eq_true_eq, not_or, Int.not_le] at hused
            dsimp only
            rw [if_pos rfl, Step.run_map]
            cases hshow : hintAt? p.hints (g.state.progress p.id).hintsUsed with
            | none =>
              rw [showHint_none hshow]
              refine .inr ⟨rfl, fun hreach => ?_⟩
              have hlow := hreach p hplay (by simpa using hhints)
              obtain ⟨hint, hsome⟩ := hintAt?_isSome hlow hused.1
              cases hshow.symm.trans hsome
            | some hint =>
              have hshown : Succeeds (Game.Legible short setup.story) (showHint p _) := showHint_succeeds hshow
              obtain ⟨shown, after, hrun, hafter⟩ | ⟨after, hrun, hafter⟩ := hshown payed
              · rw [hrun]
                exact .inl (.inl ⟨some shown, after, rfl, fun hs => hafter (hpayed (hopened hs))⟩)
              · rw [hrun]
                exact .inl (.inr ⟨after, rfl, fun hs => hafter (hpayed (hopened hs))⟩)
        · rw [hpay]
          exact .inl (.inr ⟨payed, rfl, fun hs => hpayed (hopened hs)⟩)

theorem solve_ends (hlegible : short → setup.story.Legible) (hg : (staged setup.story).Stands g)
    {answer : Datum α} (hanswer : answer.Byteless) (timeMs : Option Int) :
    SucceedsFrom (Game.Legible short setup.story) (solve setup answer timeMs) g := by
  have hplays := (staged_upheld.judge (staged_bears _) answer timeMs g ⟨hg, fun _ _ => trivial⟩).2
  have hsucceeds : Succeeds (Game.Legible short setup.story) (judge setup answer timeMs) :=
    judge_succeeds (Datum.plain_of_byteless hanswer) timeMs
  unfold solve
  refine (hsucceeds g).bind fun j judged hj => ?_
  cases j with
  | dismissed a => exact .pure a judged
  | scored p score resolved =>
    rw [hj] at hplays
    exact settle_succeeds hstory hlegible (hplays _ rfl p score resolved rfl) score resolved judged

end Play

/-! ## Moves -/

/-- All numbers that a move may have to tell of can be written: those of the story, that of the move, and those
of the state before it and after it. -/
def Game.MoveLegible (setup : Setup α) (g : Game α) (m : Move α) : Prop :=
  (setup.story.Legible ∧ m.Legible) ∧ g.state.Legible setup.story ∧
    (g.move setup m).2.state.Legible setup.story

/-- A step that ends as it should makes a move that does. -/
theorem Game.move_ends {β : Type} {m : Move α} {x : Play α β} {f : β → Reply α}
    (hstep : m.step setup = f <$> x)
    (h : SucceedsFrom (Game.Legible (setup.story.Legible ∧ m.Legible) setup.story) x { g with notes := [] }) :
    (g.move setup m).1.fault? = none ∨
      (g.move setup m).1.fault? = some .unwritable ∧ ¬ g.MoveLegible setup m := by
  unfold MoveLegible
  obtain ⟨b, t, hrun, -⟩ | ⟨t, hrun, ht⟩ := h
  · rw [Game.move_run hstep hrun]
    exact .inl rfl
  · rw [Game.move_run hstep hrun]
    exact .inr ⟨rfl, fun ⟨hshort, hbefore, hafter⟩ => ht ⟨hshort, hbefore⟩ ⟨hshort, hafter⟩⟩

/-- A move returns, unless it is a hint that is out of reach, or a number is too long to be written. -/
theorem Game.move_returns (hstory : setup.story.AmountsIn Number.Addable Draw.Drawable) {m : Move α}
    (hm : m.IsByteless) (hg : (staged setup.story).Stands g) :
    ((g.move setup m).1.fault? = none ∨
      (g.move setup m).1.fault? = some .unwritable ∧ ¬ g.MoveLegible setup m) ∨
    m = .hint ∧ (g.move setup m).1.fault? = some .noSuchHint ∧
      ¬ setup.story.HintsInReach g.state := by
  have hsilent : (staged setup.story).Stands { g with notes := [] } := ⟨hg.state, hg.active⟩
  cases m with
  | start => exact .inl (Game.move_ends rfl (Play.start_succeeds hstory And.left _))
  | look => exact .inl (Game.move_ends rfl (Play.choices_succeeds _))
  | choose index =>
    exact .inl (Game.move_ends rfl (Play.choose_succeeds hstory And.left And.right _))
  | solve answer timeMs =>
    exact .inl (Game.move_ends rfl (Play.solve_ends hstory And.left hsilent hm timeMs))
  | hint =>
    refine (Play.hint_ends hstory hsilent).imp (fun h => Game.move_ends rfl h) fun ⟨hfault, hreach⟩ => ?_
    refine ⟨rfl, ?_, hreach⟩
    rcases hrun : (Play.hint setup).run { g with notes := [] } with ⟨found, after⟩
    rw [hrun] at hfault
    cases hfault
    rw [Game.move_run (m := .hint) rfl hrun]
    rfl

/-! ## Whole amounts -/

namespace Amount

/-- A whole number that a floating number can hold. -/
def Fits (a : Amount) : Prop := ∃ n, a = .int n ∧ (ofIntFloat? n).isSome = true

theorem Fits.combine {b : Amount} (hb : b.Fits) (onInt : Int → Int → Int)
    (onFloat : Float → Float → Float) (a : Amount) :
    ∃ c, Amount.combine onInt onFloat a b = .ok c := by
  obtain ⟨n, rfl, hn⟩ := hb
  obtain ⟨y, hy⟩ := Option.isSome_iff_exists.1 hn
  cases a with
  | int m => exact ⟨.int (onInt m n), rfl⟩
  | float x =>
    have hconvert : (int n).toFloat = .ok y := by
      simp only [toFloat, hy]
    refine ⟨float (onFloat x y), ?_⟩
    show (float x).toFloat >>= (fun x => (int n).toFloat >>= fun y =>
      Except.ok (float (onFloat x y))) = _
    rw [hconvert]
    rfl

theorem Fits.addable {value : Amount} (h : value.Fits) : Number.Addable value := h.combine _ _

theorem sumFrom_int (ns : List Int) : ∀ start : Int,
    Number.sumFrom (int start) (ns.map int) = .ok (int (start + ns.sum)) := by
  induction ns with
  | nil => exact fun start => congrArg (fun n => Except.ok (int n)) (Int.add_zero start).symm
  | cons n rest ih =>
    intro start
    rw [List.sum_cons, ← Int.add_assoc]
    exact ih (start + n)

/-- Whole weights of which those above zero fit, and their sum does. -/
def WeighTogether (weights : List Amount) : Prop :=
  ∃ ns : List Int, weights = ns.map int ∧ (∀ n ∈ ns, Fits (int (max n 0))) ∧
    Fits (int (ns.map (max · 0)).sum)

theorem WeighTogether.drawable {weights : List Amount} (h : WeighTogether weights) :
    Draw.Drawable weights := by
  obtain ⟨ns, rfl, hparts, htotal⟩ := h
  have hmap : (ns.map int).map Draw.positivePart = (ns.map (max · 0)).map int := by
    simp only [List.map_map, Function.comp_def, positivePart_int]
  have hsum := sumFrom_int (ns.map (max · 0)) 0
  rw [Int.zero_add, ← hmap] at hsum
  refine Draw.drawable_of hsum (htotal.combine _ _) fun weight hweight => ?_
  rw [hmap, List.map_map] at hweight
  obtain ⟨n, hn, rfl⟩ := List.mem_map.1 hweight
  exact (hparts n hn).combine _ _

end Amount

/-- With whole amounts that floating numbers can hold, every move of a run after a state was loaded returns,
whatever the state, the draws, the clock and the scorer say, as long as its answer has no bytes in it.  A hint
that is out of reach in the state is one exception, and a number that is too long to be written is the other. -/
theorem play_returns {setup : Setup Amount}
    (hstory : setup.story.AmountsIn Amount.Fits Amount.WeighTogether) (g : Game Amount)
    (s : State Amount) (past : List (Move Amount)) {m : Move Amount} (hm : m.IsByteless) :
    let before := ((g.operate setup [.load (.ok s)]).play setup past).2
    let turn := (before.move setup m).1
    turn.fault? = none ∨
      (m = .hint ∧ turn.fault? = some .noSuchHint ∧ ¬ setup.story.HintsInReach s) ∨
      (turn.fault? = some .unwritable ∧ ¬ before.MoveLegible setup m) := by
  have hcompute := hstory.mono (fun _ => Amount.Fits.addable) fun _ => Amount.WeighTogether.drawable
  have hloaded : (staged setup.story).Stands (g.operate setup [.load (.ok s)]) :=
    ⟨trivial, by rintro q ⟨⟩⟩
  have hbefore := (staged_upheld.play (staged_bears _) past _ hloaded).1
  obtain (hreturns | hlong) | ⟨rfl, hfault, hreach⟩ := Game.move_returns hcompute hm hbefore
  · exact .inl hreturns
  · exact .inr (.inr hlong)
  · refine .inr (.inl ⟨rfl, hfault, fun h => hreach ?_⟩)
    exact h.leads (Game.play_leads past (g.operate setup [.load (.ok s)]))

/-! ## A vault -/

/-- A lock with a hint that costs gold. -/
def Puzzle.lock : Puzzle Amount where
  id := "lock"
  prompt := ""
  media := []
  timeLimit := none
  attemptsMax := none
  hints := ["Seven."]
  variants := []
  success := none
  failure := none
  gatesChoices := false
  dynamic := some ⟨none, some ⟨"gold", .int 1⟩, none⟩
  task := .numeric (.int 7) (.int 0)

/-- A vault where gold is found on entry, by a draw with one entry of some weight. -/
def Story.vault (weight : Int) : Story Amount where
  title := "The vault"
  language := "en"
  version := "1"
  assets := []
  items := []
  currencies := [⟨"gold", "Gold", none⟩]
  stats := []
  nodes :=
    [{ id := "vault", part := 1, isEnding := false, title := "", text := "", media := []
       onEnter := some [.lootTable [⟨.int weight, [.addCurrency "gold" (.int 1)]⟩]]
       puzzle := some .lock, choices := [⟨"Leave", "end", none, [], none⟩] },
     { id := "end", part := 1, isEnding := true, title := "", text := "", media := []
       onEnter := none, puzzle := none, choices := [] }]

/-- A snapshot at the vault, with some gold, that says how many hints were shown. -/
def vaultSnapshot (hintsUsed : Int) : Datum Amount :=
  .map [("current_node_id", .text "vault"), ("currencies", .map [("gold", .whole 5)]),
    ("puzzles", .map [("lock", .map [("hints_used", .whole hintsUsed)])])]

/-- The faults that moves meet at the vault after a snapshot was loaded. -/
def vaultFaults (weight hintsUsed : Int) (moves : List (Move Amount)) : List (Option Fault) :=
  let setup : Setup Amount := { Setup.riddle with story := .vault weight }
  let g := setup.newGame none (.always (.float 0.5)) (.always 0)
  let loaded := g.operate setup [.load (State.restore (vaultSnapshot hintsUsed))]
  (loaded.play setup moves).1.map Turn.fault?

theorem Story.vault_mayPlay {weight : Int} {q : Puzzle Amount} (h : (vault weight).MayPlay q) :
    q = .lock := by
  obtain ⟨n, hn, p, hp, hq⟩ := h
  simp only [vault, List.mem_cons, List.not_mem_nil, or_false] at hn
  rcases hn with rfl | rfl
  · cases hp
    rcases hq with rfl | ⟨v, hv, -⟩
    · rfl
    · cases hv
  · cases hp

theorem Story.vault_amountsIn : (vault 1).AmountsIn Amount.Fits Amount.WeighTogether := by
  have hone : Amount.Fits (.int 1) := ⟨1, rfl, by decide +kernel⟩
  have hzero : Amount.Fits (.int 0) := ⟨0, rfl, by decide +kernel⟩
  have hnone : ∀ effects : List (Effect Amount), effects = [] →
      Effect.AllAmountsIn Amount.Fits Amount.WeighTogether effects := by
    rintro _ rfl e ⟨⟩
  refine ⟨fun n hn => ?_, fun n hn c hc => ?_, fun n hn p hp => ?_, fun q hq success o ho => ?_,
    fun q hq cost hcost => ?_⟩
  · simp only [vault, List.mem_cons, List.not_mem_nil, or_false] at hn
    rcases hn with rfl | rfl
    · intro e he
      simp only [Node.onEnterEffects, Option.getD_some, Effect.walk, Effect.walkOne, Effect.walkEntries,
        List.append_nil, List.mem_cons, List.not_mem_nil, or_false] at he
      rcases he with rfl | rfl
      · refine ⟨[1], rfl, fun n hn => ?_, hone⟩
        cases List.mem_singleton.1 hn
        exact hone
      · exact hone
    · exact hnone _ rfl
  · simp only [vault, List.mem_cons, List.not_mem_nil, or_false] at hn
    rcases hn with rfl | rfl
    · cases List.mem_singleton.1 hc
      exact hnone _ rfl
    · cases hc
  · rw [Story.vault_mayPlay ⟨n, hn, p, hp, .inl rfl⟩]
    exact ⟨[], rfl, by simp, hzero⟩
  · rw [Story.vault_mayPlay hq] at ho
    cases success <;> cases ho
  · rw [Story.vault_mayPlay hq] at hcost
    cases hcost
    exact ⟨-1, rfl, by decide +kernel⟩

theorem vault_returns :
    let setup : Setup Amount := { Setup.riddle with story := .vault 1 }
    setup.story.Valid Pattern.language ∧ ∃ s, State.restore (vaultSnapshot 0) = .ok s ∧
      setup.story.HintsInReach s ∧ (∀ (g : Game Amount) (past : List (Move Amount)),
        let before := ((g.operate setup [.load (.ok s)]).play setup past).2
        ∀ m ∈ [.start, .hint, .solve (.whole 7) none], (before.move setup m).1.fault? = none ∨
          ¬ before.MoveLegible setup m) ∧
      vaultFaults 1 0 [.start, .hint, .solve (.whole 7) none] = [none, none, none] := by
  intro setup
  have hhints : (State.restore (vaultSnapshot 0)).toOption.map
      (fun s => (s.progress "lock").hintsUsed) = some 0 := by decide +kernel
  cases hs : State.restore (vaultSnapshot 0) with
  | error e =>
    rw [hs] at hhints
    cases hhints
  | ok s =>
    rw [hs] at hhints
    have hreach : setup.story.HintsInReach s := by
      intro q hq _
      rw [Story.vault_mayPlay hq]
      show -1 ≤ (s.progress "lock").hintsUsed
      have hused : (s.progress "lock").hintsUsed = 0 := Option.some.inj hhints
      omega
    have hstory : setup.story.AmountsIn Amount.Fits Amount.WeighTogether := Story.vault_amountsIn
    refine ⟨by decide +kernel, s, rfl, hreach, ?_, by decide +kernel⟩
    intro g past before m hm
    have hbyteless : m.IsByteless := by
      simp only [List.mem_cons, List.not_mem_nil, or_false] at hm
      rcases hm with rfl | rfl | rfl <;> simp [Move.IsByteless, Datum.Byteless, Datum.whole]
    obtain hreturns | ⟨-, -, hout⟩ | ⟨-, hlong⟩ := play_returns hstory g s past hbyteless
    · exact .inl hreturns
    · exact absurd hreach hout
    · exact .inr hlong

/-- Two moves at the vault do not return: a hint counted back beyond the first one, and entering where the
weight is a whole number that no floating number can hold. -/
theorem vault_raises :
    (Story.vault 1).Valid Pattern.language ∧ (Story.vault (10 ^ 400)).Valid Pattern.language ∧
      (State.restore (vaultSnapshot (-2))).toOption.isSome = true ∧
      vaultFaults 1 (-2) [.start, .hint] = [none, some .noSuchHint] ∧
      vaultFaults (10 ^ 400) 0 [.start] = [some .amountTooLarge] := by
  decide +kernel

end StoryRules
