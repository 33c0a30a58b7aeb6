import StoryRules.Proofs.Engine.Alike
import StoryRules.Proofs.Engine.Attempt
import StoryRules.Proofs.Engine.Returns

/-!
# Hints are paid for and come in order

A hint is given unless no puzzle is in play, all hints of it were shown, too few attempts were made for one,
or its cost is more than what is held.  A hint that is given is the next one, and it is counted and paid for;
where none is given, nothing is paid.  So the hints that are given for one puzzle are the first ones that it
has, in order.

    turn.reply = .ok (.hinted none) ↔ NoHint (g.activePuzzle? setup) g.state      (hint_paidWhenGiven)
-/

namespace StoryRules

variable {α : Type}

/-- Whether a puzzle has a hint that may be shown next, whatever it costs. -/
def Puzzle.Offers (p : Puzzle α) (r : Progress α) : Prop :=
  r.hintsUsed < p.hints.length ∧ p.givesHints r.attempts = true

namespace Progress

/-- One more hint. -/
def hinted (r : Progress α) : Progress α := { r with hintsUsed := r.hintsUsed + 1 }

end Progress

theorem hintAt?_of_nonneg {hints : List String} {position : Int} (h : 0 ≤ position) :
    hintAt? hints position = hints[position.toNat]? := by
  have hnonneg : ¬position < 0 := by omega
  unfold hintAt?
  dsimp only
  rw [if_neg hnonneg, if_neg hnonneg]

theorem Puzzle.givesHints_iff {p : Puzzle α} {attempts : Int} : p.givesHints attempts = true ↔
    ∀ above, p.dynamic.bind Dynamic.attemptsAbove = some above → above < attempts := by
  unfold givesHints
  cases p.dynamic.bind Dynamic.attemptsAbove with
  | none => exact ⟨fun _ => nofun, fun _ => rfl⟩
  | some above =>
    show decide (attempts > above) = true ↔ _
    rw [decide_eq_true_eq]
    constructor
    · rintro h _ ⟨⟩
      exact h
    · exact fun h => h above rfl

/-! ## Steps -/

namespace Play

variable [Number α] {setup : Setup α} {g after : Game α} {q : Puzzle α}

theorem hint_idle (h : g.activePuzzle? setup = none) : (Play.hint setup).run g = (.ok none, g) := by
  unfold Play.hint
  rw [Step.run_bind, Step.run_get]
  dsimp only
  rw [h]
  rfl

/-- Where no hint is offered, the puzzle may get a record. -/
theorem hint_closed (h : g.activePuzzle? setup = some q) (hclosed : ¬q.Offers (g.state.progress q.id)) :
    ∃ s, (Play.hint setup).run g = (.ok none, { g with state := s }) ∧
      (s = g.state ∨ s = g.state.openProgress q.id) := by
  unfold Play.hint
  rw [Step.run_bind, Step.run_get]
  dsimp only
  rw [h]
  dsimp only
  split
  · exact ⟨g.state, rfl, .inl rfl⟩
  · refine ⟨g.state.openProgress q.id, ?_, .inr rfl⟩
    rw [Step.run_bind, openProgress_run]
    dsimp only
    rw [if_pos]
    · rfl
    · unfold Puzzle.Offers at hclosed
      rw [not_and_or, Int.not_lt, Bool.not_eq_true] at hclosed
      rw [Bool.or_eq_true, decide_eq_true_eq, Bool.not_eq_true']
      exact hclosed

/-- A hint that is offered is shown once it is paid for. -/
theorem hint_offered (h : g.activePuzzle? setup = some q)
    (hused : 0 ≤ (g.state.progress q.id).hintsUsed) (hoffers : q.Offers (g.state.progress q.id)) :
    (Play.hint setup).run g =
      (do if ← payHint setup q then some <$> showHint q (g.state.progress q.id).hintsUsed
          else return none : Play α (Option String)).run { g with state := g.state.openProgress q.id } := by
  obtain ⟨hleft, hgives⟩ := hoffers
  have hsome : ¬q.hints.isEmpty = true := by
    intro hempty
    rw [List.isEmpty_iff.1 hempty, List.length_nil] at hleft
    omega
  unfold Play.hint
  rw [Step.run_bind, Step.run_get]
  dsimp only
  rw [h]
  dsimp only
  rw [if_neg hsome, Step.run_bind, openProgress_run]
  dsimp only
  rw [if_neg]
  rw [hgives, Bool.not_true, Bool.or_false, decide_eq_true_eq]
  exact Int.not_le.2 hleft

omit [Number α] in
theorem showHint_run {used : Int} {hint : String} (h : hintAt? q.hints used = some hint) :
    (showHint q used).run g = (.ok hint,
      let s := g.state.setProgress q.id (g.state.progress q.id).hinted
      Game.told { g with state := s } (.stateChanged s)) := by
  unfold showHint
  rw [h]
  rfl

end Play

/-! ## Payment -/

/-- The cost of a hint, if it has one, is paid: as much is held of its currency, and that much is taken away. -/
inductive Pays : Option (HintCost Amount) → State Amount → State Amount → Prop
  | free {s : State Amount} : Pays none s s
  | cost {s : State Amount} {currency : String} {price held : Int} :
    s.currency currency = .int held → price ≤ held →
    Pays (some ⟨currency, .int price⟩) s
      { s with currencies := s.currencies.put currency (.int (held - price)) }

/-- What is held to pay a cost, and what is left then, can be written. -/
def PaymentLegible (cost : Option (HintCost Amount)) (s : State Amount) : Prop :=
  ∀ currency price held, cost = some ⟨currency, .int price⟩ → s.currency currency = .int held →
    price ≤ held → Number.Legible (Amount.int held) ∧ Number.Legible (Amount.int (held - price))

theorem State.currency_openProgress (s : State Amount) (id currency : String) :
    (s.openProgress id).currency currency = s.currency currency := by
  unfold State.currency State.openProgress
  split <;> rfl

theorem PaymentLegible.openProgress {cost : Option (HintCost Amount)} {s : State Amount}
    (h : PaymentLegible cost s) (id : String) : PaymentLegible cost (s.openProgress id) := by
  intro currency price held hcost hheld
  rw [State.currency_openProgress] at hheld
  exact h currency price held hcost hheld

/-- A whole number is added if what was held and what is left can be written. -/
theorem Effect.applyAll_addCurrency (story : Story Amount) (scene : Scene Amount) {currency : String}
    {held : Int} (change : Int) (hheld : scene.state.currency currency = .int held)
    (hleft : 0 ≤ held + change) (hbefore : Number.Legible (Amount.int held))
    (hafter : Number.Legible (Amount.int (held + change))) :
    ∃ report, (applyAll story [.addCurrency currency (.int change)]).run scene = (.ok report,
      { scene with
        state := { scene.state with
          currencies := scene.state.currencies.put currency (.int (held + change)) } }) := by
  have hlarger : Number.larger (Number.whole 0) (Amount.int (held + change)) = .int (held + change) := by
    unfold Number.larger
    show (if Number.less (Amount.int 0) (.int (held + change)) then _ else _) = _
    rw [Amount.less_int]
    split
    · rfl
    · next hzero =>
      rw [decide_eq_true_eq] at hzero
      have hzero : held + change = 0 := by omega
      rw [hzero]
      rfl
  have hchange : ∃ report, (changeCurrency currency (.int change)).run scene = (.ok report,
      { scene with
        state := { scene.state with
          currencies := scene.state.currencies.put currency (.int (held + change)) } }) := by
    obtain ⟨before, hbefore⟩ := Number.text_of_legible hbefore
    obtain ⟨after, hafter⟩ := Number.text_of_legible hafter
    have hsum : Number.add (Amount.int held) (.int change) = .ok (.int (held + change)) := rfl
    rw [changeCurrency, Step.run_get_bind]
    dsimp only
    rw [hheld, hsum, orFault, Step.run_ok_bind, hlarger, hbefore, hafter, alter_run]
    exact ⟨_, rfl⟩
  obtain ⟨report, hchange⟩ := hchange
  refine ⟨EffectReport.absorb {} report, ?_⟩
  unfold applyAll
  rw [applyFrom, Step.run_bind, applyOne_of_simple (by rintro table ⟨⟩), applySimple, hchange]
  rfl

namespace Play

variable (setup : Setup Amount) {g : Game Amount} {q : Puzzle Amount}

/-- A hint whose cost is held is paid for. -/
theorem payHint_paid {paid : State Amount} (h : Pays (q.dynamic.bind Dynamic.hintCost) g.state paid)
    (hshort : PaymentLegible (q.dynamic.bind Dynamic.hintCost) g.state) :
    ∃ notes, (payHint setup q).run g = (.ok true, { g with state := paid, notes }) := by
  unfold payHint
  generalize q.dynamic.bind Dynamic.hintCost = cost at h hshort
  cases h with
  | free => exact ⟨g.notes, rfl⟩
  | @cost _ currency price held hheld hprice =>
    have hrich : Number.less (Amount.int held) (.int price) = false := by
      rw [Amount.less_int, decide_eq_false_iff_not]
      omega
    obtain ⟨hbefore, hafter⟩ := hshort currency price held rfl hheld hprice
    rw [Int.sub_eq_add_neg] at hafter
    obtain ⟨report, happly⟩ :=
      Effect.applyAll_addCurrency setup.story g.scene (-price) hheld (by omega) hbefore hafter
    let applied := Game.told (g.leftBy
      { g.scene with
        state := { g.state with currencies := g.state.currencies.put currency (.int (held - price)) } })
      (.effectsApplied report)
    have hrun : (applyEffects setup [.addCurrency currency (Number.neg (.int price))]).run g =
        (.ok report, applied) := by
      have hneg : Number.neg (Amount.int price) = .int (-price) := rfl
      rw [hneg, applyEffects_run, happly, ← Int.sub_eq_add_neg]
      rfl
    refine ⟨applied.notes, ?_⟩
    dsimp only
    rw [Step.run_bind, state_run]
    dsimp only
    rw [hheld, hrich, if_neg Bool.false_ne_true, Step.run_bind, hrun]
    rfl

theorem payHint_poor {currency : String} {price held : Int}
    (hcost : q.dynamic.bind Dynamic.hintCost = some ⟨currency, .int price⟩)
    (hheld : g.state.currency currency = .int held) (hpoor : held < price) :
    (payHint setup q).run g = (.ok false, g.logged [.hintUnaffordable q.id]) := by
  have hless : Number.less (Amount.int held) (.int price) = true := by
    rw [Amount.less_int, decide_eq_true_eq]
    exact hpoor
  unfold payHint
  rw [hcost]
  dsimp only
  rw [Step.run_bind, state_run]
  dsimp only
  rw [hheld, hless, if_pos rfl]
  rfl

end Play

namespace Pays

variable {cost : Option (HintCost Amount)} {s paid : State Amount}

theorem puzzles (h : Pays cost s paid) : paid.puzzles = s.puzzles := by
  cases h <;> rfl

theorem progress (h : Pays cost s paid) (id : String) : paid.progress id = s.progress id := by
  unfold State.progress
  rw [h.puzzles]

/-- What is paid does not depend on the records of puzzles. -/
theorem openProgress (h : Pays cost s paid) (id : String) :
    Pays cost (s.openProgress id) (paid.openProgress id) := by
  have hcurrencies : (s.openProgress id).currencies = s.currencies := by
    unfold State.openProgress
    split <;> rfl
  cases h with
  | free => exact .free
  | @cost _ currency price held hheld hprice =>
    have hopened : ({ s with currencies := s.currencies.put currency (.int (held - price)) } :
        State Amount).openProgress id = { s.openProgress id with
          currencies := (s.openProgress id).currencies.put currency (.int (held - price)) } := by
      rw [hcurrencies]
      unfold State.openProgress
      dsimp only
      split <;> rfl
    rw [hopened]
    exact .cost (by rwa [State.currency_openProgress]) hprice

end Pays

/-! ## Turns -/

/-- Why no hint is given in a state: no puzzle is in play, all its hints were shown, there were too few
attempts, or what is held of a currency is below the cost. -/
inductive NoHint : (active : Option (Puzzle Amount)) → State Amount → Prop
  | idle {s : State Amount} : NoHint none s
  | shown {q : Puzzle Amount} {s : State Amount} :
    (q.hints.length : Int) ≤ (s.progress q.id).hintsUsed → NoHint (some q) s
  | early {q : Puzzle Amount} {s : State Amount} {above : Int} :
    q.dynamic.bind Dynamic.attemptsAbove = some above → (s.progress q.id).attempts ≤ above →
    NoHint (some q) s
  | poor {q : Puzzle Amount} {s : State Amount} {currency : String} {price held : Int} :
    q.dynamic.bind Dynamic.hintCost = some ⟨currency, .int price⟩ →
    s.currency currency = .int held → held < price → NoHint (some q) s

/-- A hint is the next one of the puzzle in play, and nothing is changed but that it is counted and that its
cost is paid. -/
def Reveals (setup : Setup Amount) (g : Game Amount) (hint : String) (after : Game Amount) : Prop :=
  ∃ q paid, g.activePuzzle? setup = some q ∧
    q.hints[(g.state.progress q.id).hintsUsed.toNat]? = some hint ∧
    Pays (q.dynamic.bind Dynamic.hintCost) g.state paid ∧
    after = { g with
      state := paid.setProgress q.id (g.state.progress q.id).hinted
      notes := [] }

/-- Of a puzzle not fewer than no hints were shown, what a hint costs and what is held to pay it are whole
numbers, and the payment can be told of. -/
structure CountsHints (q : Puzzle Amount) (s : State Amount) : Prop where
  used : 0 ≤ (s.progress q.id).hintsUsed
  whole : ∀ cost, q.dynamic.bind Dynamic.hintCost = some cost →
    cost.value.IsWhole ∧ (s.currency cost.currency).IsWhole
  told : PaymentLegible (q.dynamic.bind Dynamic.hintCost) s

/-- A hint that nothing keeps back is offered, and its cost can be paid. -/
theorem CountsHints.pays {q : Puzzle Amount} {s : State Amount} (hcounts : CountsHints q s)
    (h : ¬NoHint (some q) s) :
    q.Offers (s.progress q.id) ∧ ∃ paid, Pays (q.dynamic.bind Dynamic.hintCost) s paid := by
  refine ⟨⟨?left, ?late⟩, ?pays⟩
  case left =>
    by_contra hused
    exact h (.shown (Int.not_lt.1 hused))
  case late =>
    rw [Puzzle.givesHints_iff]
    intro above habove
    by_contra hearly
    exact h (.early habove (Int.not_lt.1 hearly))
  case pays =>
    cases hcost : q.dynamic.bind Dynamic.hintCost with
    | none => exact ⟨s, .free⟩
    | some cost =>
      obtain ⟨currency, value⟩ := cost
      obtain ⟨⟨price, hprice⟩, held, hheld⟩ := hcounts.whole _ hcost
      dsimp only at hprice hheld
      subst hprice
      refine ⟨_, .cost hheld ?_⟩
      by_contra hpoor
      exact h (.poor hcost hheld (Int.not_le.1 hpoor))

namespace Play

variable {setup : Setup Amount} {g : Game Amount} {q : Puzzle Amount}

theorem hint_refused (hq : g.activePuzzle? setup = some q) (hcounts : CountsHints q g.state)
    (h : NoHint (some q) g.state) :
    ∃ s notes, (Play.hint setup).run g = (.ok none, { g with state := s, notes }) ∧
      (s = g.state ∨ s = g.state.openProgress q.id) := by
  by_cases hoffers : q.Offers (g.state.progress q.id)
  · obtain ⟨hleft, hgives⟩ := hoffers
    rcases h with _ | hshown | @⟨_, _, above, habove, hearly⟩ |
      @⟨_, _, currency, price, held, hcost, hheld, hpoor⟩
    · omega
    · have hlate := Puzzle.givesHints_iff.1 hgives above habove
      omega
    · have hopened : (g.state.openProgress q.id).currency currency = .int held := by
        rwa [State.currency_openProgress]
      have hpay := payHint_poor setup (g := { g with state := g.state.openProgress q.id }) hcost hopened
        hpoor
      rw [hint_offered hq hcounts.used ⟨hleft, hgives⟩, Step.run_bind, hpay]
      exact ⟨_, _, rfl, .inr rfl⟩
  · obtain ⟨s, hrun, hs⟩ := hint_closed hq hoffers
    exact ⟨s, g.notes, hrun, hs⟩

theorem hint_given (hq : g.activePuzzle? setup = some q) (hcounts : CountsHints q g.state)
    (h : ¬NoHint (some q) g.state) :
    ∃ paid hint notes, q.hints[(g.state.progress q.id).hintsUsed.toNat]? = some hint ∧
      Pays (q.dynamic.bind Dynamic.hintCost) g.state paid ∧
      (Play.hint setup).run g = (.ok (some hint),
        { g with state := paid.setProgress q.id (g.state.progress q.id).hinted, notes }) := by
  have hused := hcounts.used
  obtain ⟨hoffers, paid, hpays⟩ := hcounts.pays h
  have hleft := hoffers.1
  have hnext : q.hints[(g.state.progress q.id).hintsUsed.toNat]? = some _ :=
    List.getElem?_eq_getElem (by omega)
  obtain ⟨notes, hpay⟩ :=
    payHint_paid setup (g := { g with state := g.state.openProgress q.id }) (hpays.openProgress q.id)
      (hcounts.told.openProgress q.id)
  refine ⟨paid, _, ?notes, hnext, hpays, ?run⟩
  case run =>
    rw [hint_offered hq hused hoffers, Step.run_bind, hpay]
    dsimp only
    rw [if_pos rfl, Step.run_map, showHint_run ((hintAt?_of_nonneg hused).trans hnext)]
    dsimp only
    rw [State.progress_openProgress, hpays.progress, State.setProgress_openProgress]
    rfl

end Play

section

variable {setup : Setup Amount} {g : Game Amount}

theorem NoHint.untouched (hcounts : ∀ q, g.activePuzzle? setup = some q → CountsHints q g.state)
    (h : NoHint (g.activePuzzle? setup) g.state) :
    (g.move setup .hint).1.reply = .ok (.hinted none) ∧
      Untouched setup g (g.move setup .hint).1 (g.move setup .hint).2 := by
  let silent : Game Amount := { g with notes := [] }
  have hrefused : ∃ s notes, (Play.hint setup).run silent = (.ok none, { silent with state := s, notes }) ∧
      (s = g.state ∨ ∃ q, g.activePuzzle? setup = some q ∧ s = g.state.openProgress q.id) := by
    cases hq : g.activePuzzle? setup with
    | none => exact ⟨g.state, [], Play.hint_idle (g := silent) hq, .inl rfl⟩
    | some q =>
      rw [hq] at h
      obtain ⟨s, notes, hrun, hs⟩ := Play.hint_refused (g := silent) hq (hcounts q hq) h
      exact ⟨s, notes, hrun, hs.imp_right fun hs => ⟨q, rfl, hs⟩⟩
  obtain ⟨s, notes, hrun, hs⟩ := hrefused
  have hmarks : Game.marks { silent with state := s, notes } = silent.marks := Play.hint_told hrun
  rw [Game.move_run (m := .hint) rfl hrun]
  exact ⟨rfl, hs, rfl, kinds_quiet (g := silent) rfl hmarks⟩

theorem reveals_of_not_noHint (hcounts : ∀ q, g.activePuzzle? setup = some q → CountsHints q g.state)
    (h : ¬NoHint (g.activePuzzle? setup) g.state) :
    ∃ hint, (g.move setup .hint).1.reply = .ok (.hinted (some hint)) ∧
      Reveals setup g hint (g.move setup .hint).2 := by
  cases hq : g.activePuzzle? setup with
  | none =>
    rw [hq] at h
    exact absurd .idle h
  | some q =>
    rw [hq] at h
    obtain ⟨paid, hint, notes, hnext, hpays, hrun⟩ :=
      Play.hint_given (g := { g with notes := [] }) hq (hcounts q hq) h
    rw [Game.move_run (m := .hint) rfl hrun]
    exact ⟨hint, rfl, q, paid, hq, hnext, hpays, rfl⟩

end

/-! ## Sequences -/

/-- The hint that a turn gave. -/
def Turn.hint? (turn : Turn α) : Option String :=
  match turn.reply with
  | .ok (.hinted hint) => hint
  | _ => none

variable [Number α] {setup : Setup α} {g : Game α} {q : Puzzle α}

/-- Whenever a hint is asked for, it is one of the same puzzle. -/
def Game.AsksOf (setup : Setup α) (q : Puzzle α) : Game α → List (Move α) → Prop
  | _, [] => True
  | g, m :: rest => (m = .hint → g.activePuzzle? setup = some q) ∧
    Game.AsksOf setup q (g.move setup m).2 rest

/-- Only hints are counted as such. -/
theorem Game.judged_hintsUsed (answer : Datum α) (timeMs : Option Int) (score : Score α)
    (lines : List LogLine) (id : String) :
    ((g.judged q answer timeMs score lines).2.state.progress id).hintsUsed =
      (g.state.progress id).hintsUsed := by
  by_cases hid : q.id = id
  · subst hid
    unfold judged
    dsimp only
    split
    · rw [State.progress_setProgress_self]
      rfl
    · split <;> rw [State.progress_setProgress_self] <;> rfl
  · rw [(g.judged_frame q answer timeMs score lines hid).2]

theorem Play.judge_hintsUsed (answer : Datum α) (timeMs : Option Int) (id : String) :
    (((Play.judge setup answer timeMs).run g).2.state.progress id).hintsUsed =
      (g.state.progress id).hintsUsed := by
  cases hq : g.activePuzzle? setup with
  | none => rw [Play.judge_none hq]
  | some q =>
    by_cases hopen : q.IsOpen (g.state.progress q.id)
    · rcases hscore : g.scorer setup q answer with ⟨_ | score, lines⟩
      · rw [Play.judge_failed hq hopen hscore]
        exact congrArg Progress.hintsUsed (State.progress_openProgress _ _ _)
      · rw [Play.judge_scored hq hopen hscore]
        exact Game.judged_hintsUsed answer timeMs score lines id
    · rw [Play.judge_closed hq hopen]
      exact congrArg Progress.hintsUsed (State.progress_openProgress _ _ _)

/-- Only by asking for a hint is one counted. -/
theorem Game.move_hintsUsed {m : Move α} (hm : m ≠ .hint) (id : String) :
    ((g.move setup m).2.state.progress id).hintsUsed = (g.state.progress id).hintsUsed := by
  cases m with
  | start | look | choose _ =>
    exact congrArg Progress.hintsUsed ((g.move_keepsRecords (by rintro _ _ ⟨⟩) (by rintro ⟨⟩)).records id)
  | solve answer timeMs =>
    show ((((Move.solve answer timeMs).step setup).run { g with notes := [] }).2.state.progress id).hintsUsed = _
    unfold Move.step
    rw [Step.run_map_snd, (Play.solve_keepsRecords setup _ answer timeMs).records id]
    exact Play.judge_hintsUsed (g := { g with notes := [] }) answer timeMs id
  | hint => exact absurd rfl hm

/-- A hint that is given is the next one and is counted, and if none is given, none is counted. -/
theorem Play.hint_counts (hq : g.activePuzzle? setup = some q) (hused : 0 ≤ (g.state.progress q.id).hintsUsed) :
    let used := (g.state.progress q.id).hintsUsed
    let result := ((Play.hint setup).run g).1
    let after := (((Play.hint setup).run g).2.state.progress q.id).hintsUsed
    (∃ hint, result = .ok (some hint) ∧ q.hints[used.toNat]? = some hint ∧ after = used + 1) ∨
      (∀ hint, result ≠ .ok (some hint)) ∧ after = used := by
  by_cases hoffers : q.Offers (g.state.progress q.id)
  · rw [hint_offered hq hused hoffers]
    have hpaid := (Play.payHint_keepsRecords setup
      (g := { g with state := g.state.openProgress q.id }) (.openProgress g.state q.id) q).records q.id
    rw [Step.run_bind]
    rcases hpay : (Play.payHint setup q).run { g with state := g.state.openProgress q.id } with
      ⟨_ | paid, payed⟩
    · rw [hpay] at hpaid
      exact .inr ⟨nofun, congrArg Progress.hintsUsed hpaid⟩
    · rw [hpay] at hpaid
      cases paid with
      | false => exact .inr ⟨nofun, congrArg Progress.hintsUsed hpaid⟩
      | true =>
        have hleft := hoffers.1
        have hnext : q.hints[(g.state.progress q.id).hintsUsed.toNat]? = some _ :=
          List.getElem?_eq_getElem (by omega)
        dsimp only
        rw [if_pos rfl, Step.run_map, showHint_run ((hintAt?_of_nonneg hused).trans hnext)]
        refine .inl ⟨_, rfl, hnext, ?_⟩
        show ((payed.state.setProgress q.id (payed.state.progress q.id).hinted).progress q.id).hintsUsed = _
        rw [State.progress_setProgress_self, hpaid]
        rfl
  · obtain ⟨s, hrun, hs⟩ := hint_closed hq hoffers
    rw [hrun]
    refine .inr ⟨nofun, ?_⟩
    rcases hs with rfl | rfl
    · rfl
    · exact congrArg Progress.hintsUsed (State.progress_openProgress _ _ _)

/-! ## Asking for hints one after the other -/

/-- A game stands at a node, with a puzzle put in play. -/
def Game.StandsBy (node : String) (active : Option (Puzzle α)) (g : Game α) : Prop :=
  g.state.currentNode = node ∧ g.active = active

namespace Play

variable {node : String} {active : Option (Puzzle α)}

omit [Number α] in
theorem note_standsBy (n : Note α) : Keeps (Game.StandsBy node active) (note n) fun _ => True :=
  Keeps.update fun _ hg => hg

omit [Number α] in
theorem change_standsBy {f : State α → State α} (h : ∀ s, (f s).currentNode = s.currentNode) :
    Keeps (Game.StandsBy node active) (change f) fun _ => True :=
  Keeps.update fun _ hg => ⟨(h _).trans hg.1, hg.2⟩

omit [Number α] in
theorem state_standsBy : Keeps (Game.StandsBy node active) (state (α := α)) fun _ => True :=
  Keeps.bind Keeps.get fun _ _ => Keeps.pure trivial

theorem applyEffects_standsBy (effects : List (Effect α)) :
    Keeps (Game.StandsBy node active) (applyEffects setup effects) fun _ => True := by
  intro g hg
  refine ⟨?_, fun _ _ => trivial⟩
  have hnode := applyAll_currentNode setup effects g.scene
  rw [applyEffects_run]
  rcases hrun : (Effect.applyAll setup.story effects).run g.scene with ⟨_ | report, scene⟩
  · rw [hrun] at hnode
    exact ⟨hnode.trans hg.1, hg.2⟩
  · rw [hrun] at hnode
    exact ⟨hnode.trans hg.1, hg.2⟩

theorem payHint_standsBy (p : Puzzle α) :
    Keeps (Game.StandsBy node active) (payHint setup p) fun _ => True := by
  unfold payHint
  split
  · exact Keeps.pure trivial
  · refine Keeps.bind state_standsBy fun s _ => ?_
    split
    · exact Keeps.bind (note_standsBy _) fun _ _ => Keeps.pure trivial
    · exact Keeps.bind (applyEffects_standsBy _) fun _ _ => Keeps.pure trivial

omit [Number α] in
theorem showHint_standsBy (p : Puzzle α) (used : Int) :
    Keeps (Game.StandsBy node active) (showHint p used) fun _ => True := by
  unfold showHint
  split
  · exact Keeps.throw
  · refine Keeps.bind (change_standsBy fun _ => rfl) fun _ _ => ?_
    exact Keeps.bind (Keeps.bind state_standsBy fun _ _ => note_standsBy _) fun _ _ => Keeps.pure trivial

theorem hint_standsBy (setup : Setup α) : Keeps (Game.StandsBy node active) (Play.hint setup) fun _ => True := by
  unfold Play.hint
  refine Keeps.bind Keeps.get fun g _ => ?_
  split
  · exact Keeps.pure trivial
  · next p _ =>
    split
    · exact Keeps.pure trivial
    · have hopened : Keeps (Game.StandsBy node active) (openProgress (α := α) p.id) fun _ => True := by
        unfold openProgress
        refine Keeps.bind (change_standsBy fun s => s.currentNode_openProgress p.id) fun _ _ => ?_
        exact Keeps.bind state_standsBy fun _ _ => Keeps.pure trivial
      refine Keeps.bind hopened fun r _ => ?_
      split
      · exact Keeps.pure trivial
      · refine Keeps.bind (payHint_standsBy p) fun paid _ => ?_
        split
        · exact (showHint_standsBy p _).map fun _ _ => trivial
        · exact Keeps.pure trivial

end Play

/-- Hints that are asked for with nothing between them are of the same puzzle. -/
theorem Game.asksOf_replicate (k : Nat) : ∀ {g : Game α}, g.activePuzzle? setup = some q →
    Game.AsksOf setup q g (.replicate k .hint) := by
  induction k with
  | zero => exact fun _ => trivial
  | succ k ih =>
    intro g hq
    refine ⟨fun _ => hq, ih ?_⟩
    obtain ⟨⟨hnode, hactive⟩, -⟩ := Play.hint_standsBy setup { g with notes := [] } ⟨rfl, rfl⟩
    rcases hrun : (Play.hint setup).run { g with notes := [] } with ⟨result, after⟩
    rw [hrun] at hnode hactive
    rw [Game.move_run (m := .hint) rfl hrun, ← hq]
    exact Game.activePuzzle?_congr hactive hnode

/-! ## The hints that are given -/

/-- The hints that turns gave, in order. -/
def hintsGiven (turns : List (Turn α)) : List String := turns.filterMap Turn.hint?

theorem Game.move_hint?_of_ne {m : Move α} (hm : m ≠ .hint) : (g.move setup m).1.hint? = none := by
  have hother : ∀ {β : Type} {x : Play α β} {f : β → Reply α}, m.step setup = f <$> x →
      (∀ b hint, f b ≠ .hinted hint) → (g.move setup m).1.hint? = none := by
    intro β x f hstep hreply
    rcases hrun : x.run { g with notes := [] } with ⟨result, after⟩
    rw [Game.move_run hstep hrun]
    unfold Turn.hint?
    cases result with
    | error fault => rfl
    | ok b =>
      dsimp only [Except.map]
      cases hb : f b with
      | hinted hint => exact absurd hb (hreply b hint)
      | _ => rfl
  cases m with
  | start => exact hother (x := Play.start setup) rfl fun _ _ => nofun
  | look => exact hother (x := Play.choices setup) rfl fun _ _ => nofun
  | choose index => exact hother (x := Play.choose setup index) rfl fun _ _ => nofun
  | solve answer timeMs => exact hother (x := Play.solve setup answer timeMs) rfl fun _ _ => nofun
  | hint => exact absurd rfl hm

/-- A move gives the hint that comes after those that are counted, or none, and counts it. -/
theorem Game.move_gives {m : Move α} (hasks : m = .hint → g.activePuzzle? setup = some q)
    (hused : 0 ≤ (g.state.progress q.id).hintsUsed) :
    let after := ((g.move setup m).2.state.progress q.id).hintsUsed
    0 ≤ after ∧ q.hints.take after.toNat =
      q.hints.take (g.state.progress q.id).hintsUsed.toNat ++ (g.move setup m).1.hint?.toList := by
  by_cases hm : m = .hint
  · subst hm
    rcases hrun : (Play.hint setup).run { g with notes := [] } with ⟨result, after⟩
    have hcounts := Play.hint_counts (g := { g with notes := [] }) (hasks rfl) hused
    rw [hrun] at hcounts
    rw [Game.move_run (m := .hint) rfl hrun]
    dsimp only at hcounts ⊢
    rcases hcounts with ⟨hint, rfl, hnext, hafter⟩ | ⟨hnone, hafter⟩
    · have hsucc : (after.state.progress q.id).hintsUsed.toNat =
          (g.state.progress q.id).hintsUsed.toNat + 1 := by
        omega
      refine ⟨by omega, ?_⟩
      rw [hsucc, List.take_add_one, hnext]
      rfl
    · have hquiet : (⟨result.map Reply.hinted, after.notes⟩ : Turn α).hint? = none := by
        unfold Turn.hint?
        rcases result with fault | _ | hint
        · rfl
        · rfl
        · exact absurd rfl (hnone hint)
      rw [hquiet, hafter]
      exact ⟨hused, (List.append_nil _).symm⟩
  · dsimp only
    rw [Game.move_hintsUsed hm, Game.move_hint?_of_ne hm]
    exact ⟨hused, (List.append_nil _).symm⟩

/-- The hints that are given for a puzzle are those that come after the ones that were shown before. -/
theorem Game.play_gives (moves : List (Move α)) : ∀ {g : Game α}, Game.AsksOf setup q g moves →
    0 ≤ (g.state.progress q.id).hintsUsed →
    q.hints.take ((g.play setup moves).2.state.progress q.id).hintsUsed.toNat =
      q.hints.take (g.state.progress q.id).hintsUsed.toNat ++ hintsGiven (g.play setup moves).1 := by
  induction moves with
  | nil => exact fun _ _ => (List.append_nil _).symm
  | cons m rest ih =>
    intro g hasks hused
    obtain ⟨hafter, hgives⟩ := Game.move_gives hasks.1 hused
    have hrest := ih hasks.2 hafter
    rw [hgives, List.append_assoc] at hrest
    have hturns : hintsGiven (g.play setup (m :: rest)).1 =
        (g.move setup m).1.hint?.toList ++ hintsGiven ((g.move setup m).2.play setup rest).1 := by
      show ((g.move setup m).1 :: ((g.move setup m).2.play setup rest).1).filterMap Turn.hint? = _
      rw [List.filterMap_cons]
      cases (g.move setup m).1.hint? <;> rfl
    rw [hturns]
    exact hrest

/-- Where the payment can be told of, a hint is given and paid for, or neither, and it is not given just if
something keeps it back.  The hints that are given for a puzzle of which none was shown are the first ones that it
has, in order, whatever is done between them. -/
theorem hint_paidWhenGiven {setup : Setup Amount} {g : Game Amount}
    (hcounts : ∀ q, g.activePuzzle? setup = some q → CountsHints q g.state) :
    let turn := (g.move setup .hint).1
    let after := (g.move setup .hint).2
    (turn.reply = .ok (.hinted none) ∧ Untouched setup g turn after ∨
      ∃ hint, turn.reply = .ok (.hinted (some hint)) ∧ Reveals setup g hint after) ∧
    (turn.reply = .ok (.hinted none) ↔ NoHint (g.activePuzzle? setup) g.state) ∧
    ∀ q, (g.state.progress q.id).hintsUsed = 0 →
      (∀ moves, Game.AsksOf setup q g moves → ∃ k, hintsGiven (g.play setup moves).1 = q.hints.take k) ∧
      (g.activePuzzle? setup = some q → ∀ k, Game.AsksOf setup q g (.replicate k .hint)) := by
  refine ⟨?outcome, ⟨fun hreply => ?kept, fun h => (h.untouched hcounts).1⟩,
    fun q hzero => ⟨fun moves hasks => ?sequence, fun hq k => Game.asksOf_replicate k hq⟩⟩
  case outcome =>
    by_cases h : NoHint (g.activePuzzle? setup) g.state
    · exact .inl (h.untouched hcounts)
    · exact .inr (reveals_of_not_noHint hcounts h)
  case kept =>
    by_contra h
    obtain ⟨hint, hgiven, -⟩ := reveals_of_not_noHint hcounts h
    cases hreply.symm.trans hgiven
  case sequence =>
    have hgives := Game.play_gives moves hasks (Int.le_of_eq hzero.symm)
    rw [hzero] at hgives
    exact ⟨_, hgives.symm⟩

/-- At the vault the gold that is found on entry pays for a hint, and no other one is given after it. -/
theorem vault_paidWhenGiven :
    let setup : Setup Amount := { Setup.riddle with story := .vault 1 }
    let g := ((setup.newGame none (.always (.float 0.5)) (.always 0)).move setup .start).2
    (∀ q, g.activePuzzle? setup = some q → CountsHints q g.state) ∧
      (∃ hint, Reveals setup g hint (g.move setup .hint).2) ∧
      ∃ k, hintsGiven (g.play setup (.replicate 2 .hint)).1 = Puzzle.lock.hints.take k := by
  intro setup g
  have hg : (staged setup.story).Stands g :=
    (staged_upheld.play (staged_bears _) [.start] _ ⟨trivial, by rintro q ⟨⟩⟩).1
  have hlock : ∀ q, g.activePuzzle? setup = some q → q = .lock :=
    fun q hq => Story.vault_mayPlay (staged_upheld.activePuzzle? hg hq)
  have hzero : (g.state.progress Puzzle.lock.id).hintsUsed = 0 := by decide +kernel
  have hcounts : ∀ q, g.activePuzzle? setup = some q → CountsHints q g.state := by
    intro q hq
    obtain rfl := hlock q hq
    have hheld : g.state.currency "gold" = .int 1 := Amount.whole?_eq_some.1 (by decide +kernel)
    refine ⟨Int.le_of_eq hzero.symm, ?_, ?_⟩
    · rintro cost ⟨⟩
      exact ⟨⟨1, rfl⟩, 1, hheld⟩
    · rintro _ _ held ⟨⟩ hgold -
      obtain rfl := Amount.int.inj (hheld.symm.trans hgold)
      exact ⟨by decide +kernel, by decide +kernel⟩
  obtain ⟨houtcome, -, hsequence⟩ := hint_paidWhenGiven hcounts
  refine ⟨hcounts, ?reveals, ?given⟩
  case reveals =>
    have hgiven : (g.move setup .hint).1.hint? = some "Seven." := by decide +kernel
    rcases houtcome with ⟨hnone, -⟩ | ⟨hint, -, hreveals⟩
    · unfold Turn.hint? at hgiven
      rw [hnone] at hgiven
      cases hgiven
    · exact ⟨hint, hreveals⟩
  case given =>
    have hactive : (g.activePuzzle? setup).isSome = true := by decide +kernel
    obtain ⟨q, hq⟩ := Option.isSome_iff_exists.1 hactive
    obtain rfl := hlock q hq
    obtain ⟨hfirst, hasks⟩ := hsequence .lock hzero
    exact hfirst _ (hasks hq 2)

/-- A lookout with a puzzle that has the same hint twice. -/
def Story.lookout : Story Amount where
  title := "The lookout"
  language := "en"
  version := "1"
  assets := []
  items := []
  currencies := []
  stats := []
  nodes :=
    [{ id := "lookout", part := 1, isEnding := false, title := "", text := "", media := []
       onEnter := none
       puzzle := some { Puzzle.lock with hints := ["Look.", "Look."], dynamic := none }
       choices := [] }]

/-- More gold than can be told of pays for a hint that is not given.  And a hint that is there twice is given
twice. -/
theorem vault_overcharges :
    let setup : Setup Amount := { Setup.riddle with story := .vault 1 }
    let start := setup.newGame none (.always (.float 0.5)) (.always 0)
    let rich : Game Amount := { start with
      state := { start.state with currencies := [("gold", Amount.int Amount.longWhole)] } }
    let paid := rich.move setup .hint
    let lookout : Setup Amount := { Setup.riddle with story := .lookout }
    let above := lookout.newGame none (.always (.float 0.5)) (.always 0)
    ((rich.activePuzzle? setup).map Puzzle.id = some "lock" ∧
      (rich.state.progress "lock").hintsUsed = 0 ∧ paid.1.reply.toOption.isNone = true ∧
      Number.whole? (paid.2.state.currency "gold") = some (Amount.longWhole - 1) ∧
      (paid.2.state.progress "lock").hintsUsed = 0) ∧
    hintsGiven (above.play lookout (.replicate 2 .hint)).1 = ["Look.", "Look."] := by
  decide +kernel

end StoryRules
