/-
Module: Stagecraft.Proofs.Antecedents
Purpose: What was reported before an evaluation has no influence on it: it goes the same
  way from every state that looks the same, and adds the same faults.
Main exports:
  EvalState.onTop, Surroundings.run_onTop, EvalState.SameView, EvalState.faultsSince,
  Surroundings.Reflects, Surroundings.run_reflects, Surroundings.run_succ_reflects
-/
import Stagecraft.Proofs.DepthLimit
import Stagecraft.Proofs.Endings
import Stagecraft.Proofs.Lockstep

namespace Stagecraft

variable {σ : Type}

/-!
An evaluation adds to the faults and to the journal and does not read them; only a multi
counts the faults, and then those that were added since it began.  So whatever was there
before can be put under the evaluation afterwards.
-/

/-! ### Earlier faults and entries -/

namespace EvalState

variable (state : EvalState σ) (faults : List NodeFault) (journal : List JournalEntry)

/-- The evaluation on top of earlier faults and entries. -/
def onTop : EvalState σ :=
  { state with faults := faults ++ state.faults, journal := state.journal ++ journal }

end EvalState

/-- An ending on top of earlier faults and entries. -/
def Ending.onTop (ending : Ending σ) (faults : List NodeFault) (journal : List JournalEntry) :
    Ending σ :=
  (ending.1, ending.2.onTop faults journal)

namespace Surroundings

/-- An evaluation on top of earlier faults and entries stays there. -/
theorem lockstep_onTop (surroundings : Surroundings σ) (faults : List NodeFault)
    (journal : List JournalEntry) :
    surroundings.Lockstep (.refl NodeId) surroundings
      fun state other => other = state.onTop faults journal where
  graph := .refl _
  maxDepth := rfl
  time := rfl
  overlaps := rfl
  support := rfl
  button := rfl
  actor := by
    rintro state _ rfl
    exact (Actor.renumber_refl _).symm
  map := by
    rintro state _ rfl
    rfl
  signals := by
    rintro state _ rfl
    rfl
  added := by
    rintro before _ after _ rfl rfl
    simp only [EvalState.onTop, List.length_append, Nat.add_left_cancel_iff]
  note := by
    rintro state _ rfl entry
    rw [JournalEntry.renumber_refl]
    rfl
  fail := by
    rintro state _ rfl node fault
    simp only [EvalState.fail, EvalState.onTop, List.append_assoc]
    rfl
  signal := by
    rintro state _ rfl signals
    rfl
  withActor := by
    rintro state _ rfl actor -
    rw [Actor.renumber_refl]
    rfl
  withMap := by
    rintro state _ rfl map
    rfl
  request := by
    rintro state _ rfl request
    rfl
  progress := by
    rintro state _ rfl node kind direction frames
    rfl
  animate := by
    rintro state _ rfl node kind direction frames
    rfl

/-- Earlier faults and entries have no influence on a run. -/
theorem run_onTop (surroundings : Surroundings σ) (levels : Nat) (id : NodeId)
    (state : EvalState σ) (faults : List NodeFault) (journal : List JournalEntry) :
    surroundings.run levels id (state.onTop faults journal) =
      Ending.onTop (surroundings.run levels id state) faults journal := by
  have ended := (surroundings.lockstep_onTop faults journal).run_related levels id state _ rfl
  exact Prod.ext ended.outcome ended.state

end Surroundings

/-! ### States that look the same -/

namespace EvalState

/-- Two states look the same: the scene and the signals are the same. -/
structure SameView (state other : EvalState σ) : Prop where
  scene : other.scene = state.scene
  signals : other.signals = state.signals

/-- The faults that were added since an earlier state. -/
def faultsSince (after before : EvalState σ) : List NodeFault :=
  after.faults.drop before.faults.length

/-- The state with nothing reported so far. -/
def cleared (state : EvalState σ) : EvalState σ := { state with faults := [], journal := [] }

theorem cleared_onTop (state : EvalState σ) :
    state.cleared.onTop state.faults state.journal = state := by
  simp only [cleared, onTop, List.append_nil, List.nil_append]

/-- States with the same view differ in faults and journal only. -/
theorem SameView.cleared_eq {state other : EvalState σ} (same : state.SameView other) :
    other.cleared = state.cleared := by
  simp only [cleared, same.scene, same.signals]

theorem SameView.note {state other : EvalState σ} (same : state.SameView other)
    (entry entryOther : JournalEntry) :
    (state.note entry).SameView (other.note entryOther) :=
  ⟨same.scene, same.signals⟩

end EvalState

namespace Surroundings

variable {surroundings : Surroundings σ} {state other : EvalState σ}

/-- A run, told by what it does where nothing was reported before. -/
theorem run_eq_onTop (surroundings : Surroundings σ) (levels : Nat) (id : NodeId)
    (state : EvalState σ) :
    surroundings.run levels id state =
      (surroundings.run levels id state.cleared).onTop state.faults state.journal := by
  rw [← run_onTop surroundings levels id state.cleared, state.cleared_onTop]

/-- The faults that a run adds are those where nothing was reported before. -/
theorem faultsSince_run (levels : Nat) (id : NodeId) (state : EvalState σ) :
    (surroundings.run levels id state).2.faultsSince state =
      (surroundings.run levels id state.cleared).2.faults := by
  rw [run_eq_onTop]
  exact List.drop_left

/-- From another state a passage ends in a state that looks the same, with some faults
added. -/
structure Reflects (after : EvalState σ) (added : List NodeFault) (other afterOther : EvalState σ) :
    Prop where
  view : after.SameView afterOther
  faults : afterOther.faults = other.faults ++ added

/-- Two evaluations that agree from cleared states agree from the states themselves, each on
top of the faults and entries it had. -/
theorem reflects_of_cleared {levels levelsOther : Nat} {id : NodeId}
    (same : surroundings.run levelsOther id other.cleared =
      surroundings.run levels id state.cleared) :
    Reflects (surroundings.run levels id state).2
      ((surroundings.run levels id state).2.faultsSince state) other
      (surroundings.run levelsOther id other).2 where
  view := by
    rw [run_eq_onTop, run_eq_onTop surroundings levelsOther, same]
    exact ⟨rfl, rfl⟩
  faults := by
    rw [faultsSince_run, run_eq_onTop surroundings levelsOther, same]
    rfl

/-- What was reported before has no influence on a run. -/
theorem run_reflects (levels : Nat) (id : NodeId) (same : state.SameView other) :
    Reflects (surroundings.run levels id state).2
      ((surroundings.run levels id state).2.faultsSince state) other
      (surroundings.run levels id other).2 :=
  reflects_of_cleared (by rw [same.cleared_eq])

/-- One level more has no influence on a run that adds no fault of the depth. -/
theorem run_succ_reflects {levels : Nat} {id : NodeId} (same : state.SameView other)
    (within : WithinDepth ((surroundings.run levels id state).2.faultsSince state)) :
    Reflects (surroundings.run levels id state).2
      ((surroundings.run levels id state).2.faultsSince state) other
      (surroundings.run (levels + 1) id other).2 := by
  refine reflects_of_cleared ?_
  rw [same.cleared_eq]
  rw [faultsSince_run] at within
  exact run_limitedTo (Nat.le_succ levels) surroundings.maxDepth within

end Surroundings

end Stagecraft
