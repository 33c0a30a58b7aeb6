import StoryRules.Engine.Operations
import StoryRules.Proofs.Engine.Invariant

/-!
# Invariants of operations

An invariant that is upheld by the moves of a game is kept by every operation, as long as it holds of the
states that are put in the place of the game's own: the initial state, and the snapshots that are loaded.

    I.Upheld setup → I.Bears → I.state setup.initialState → (∀ s, .load (.ok s) ∈ operations → I.state s) →
      I.Stands g → I.Stands (g.operate setup operations)      (Upheld.operate)
-/

namespace StoryRules.Invariant

variable {α : Type} {I : Invariant α}

theorem restart_keeps {s : State α} (hs : I.state s) :
    Keeps I.Holds (Play.restart s) fun _ => True := by
  unfold Play.restart
  refine Keeps.bind (Keeps.update fun g hg => ⟨⟨hs, ?_⟩, hg.lines⟩) fun _ _ => emitState_keeps
  rintro q ⟨⟩

theorem load_keeps {snapshot : Except RestoreError (State α)}
    (h : ∀ s, snapshot = .ok s → I.state s) : Keeps I.Holds (Play.load snapshot) fun _ => True := by
  cases snapshot with
  | ok s => exact Keeps.bind (restart_keeps (h s rfl)) fun _ _ => Keeps.pure trivial
  | error e => exact Keeps.pure trivial

variable [Number α] {setup : Setup α}

theorem timerActive_keeps (timer : String) :
    Keeps I.Holds (Play.timerActive (α := α) timer) fun _ => True := by
  unfold Play.timerActive
  refine Keeps.bind now_keeps fun time _ => ?_
  exact Keeps.bind state_keeps fun s _ => Keeps.pure trivial

namespace Upheld

variable (up : I.Upheld setup) (bears : I.Bears) (initial : I.state setup.initialState)

include up bears initial

theorem step {operation : Operation α} (h : ∀ s, operation = .load (.ok s) → I.state s) :
    Keeps I.Holds (operation.step setup) fun _ => True := by
  cases operation with
  | move m => exact (up.move bears m).map fun _ _ => trivial
  | timer name => exact (timerActive_keeps name).map fun _ _ => trivial
  | load snapshot =>
    refine (load_keeps fun s hs => h s ?_).map fun _ _ => trivial
    rw [hs]
  | reset => exact (restart_keeps initial).map fun _ _ => trivial

/-- An invariant that is upheld stands after all operations. -/
theorem operate {operations : List (Operation α)}
    (h : ∀ s, Operation.load (.ok s) ∈ operations → I.state s) :
    ∀ {g : Game α}, I.Stands g → I.Stands (g.operate setup operations) := by
  induction operations with
  | nil => exact id
  | cons operation rest ih =>
    intro g hg
    refine ih (fun s hs => h s (List.mem_cons_of_mem _ hs)) ?_
    have hstep := up.step bears initial fun s hs => h s (hs ▸ List.mem_cons_self)
    obtain ⟨hafter, -⟩ := hstep { g with notes := [] } ⟨⟨hg.state, hg.active⟩, by simp⟩
    exact ⟨hafter.state, hafter.active⟩

end Upheld

end StoryRules.Invariant
