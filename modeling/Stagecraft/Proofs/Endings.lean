/-
Module: Stagecraft.Proofs.Endings
Purpose: How executions end: what the end itself adds, what a node without children leaves
  behind, and what a node that leads on does in between.
Main exports:
  EvalState.finish, Surroundings.Completes, EvalState.SameReport, Yields,
  Surroundings.execute_leaf, Surroundings.execute_leads, Surroundings.execute_wrapper,
  Surroundings.execute_multi, Surroundings.execute_switch, Surroundings.executions_succ,
  Surroundings.OnlyOf
-/
import Stagecraft.Proofs.Executions

namespace Stagecraft

variable {σ α β : Type}

/-! ### The end of an execution -/

namespace EvalState

/-- The end of an execution: a success raises the signal of the node, if the kind of the node
does not defer that. -/
def finish (state : EvalState σ) (id : NodeId) (node : Node Edge) (outcome : Outcome) :
    EvalState σ :=
  let raises := outcome = .success ∧ node.signal = some .stop ∧ ¬ node.kind.defersSignal
  (if raises then state.stop else state).note (.finished id outcome)

variable (state : EvalState σ) (id : NodeId) (node : Node Edge) (outcome : Outcome)

@[simp] theorem finish_scene : (state.finish id node outcome).scene = state.scene := by
  simp only [finish]
  split <;> rfl

@[simp] theorem finish_faults : (state.finish id node outcome).faults = state.faults := by
  simp only [finish]
  split <;> rfl

@[simp] theorem finish_locks :
    (state.finish id node outcome).signals.locks = state.signals.locks := by
  simp only [finish]
  split <;> rfl

/-- STOP is raised at the end of a node if it was before, or if a success signals it at
once. -/
theorem finish_stopped_iff :
    (state.finish id node outcome).signals.stopped = true ↔
      state.signals.stopped = true ∨
        outcome = .success ∧ node.signal = some .stop ∧ node.kind.defersSignal = false := by
  simp only [finish, Bool.not_eq_true]
  split
  · next raises => simp [raises, note, stop, Signals.stop]
  · next quiet => simp [quiet, note]

end EvalState

namespace Surroundings

variable {surroundings : Surroundings σ} {descend : Descent σ} {id : NodeId} {node : Node Edge}

/-- Work that is done is concluded with its outcome. -/
theorem conclude_ok (before after : EvalState σ) (outcome : Outcome) :
    conclude id node before (.ok (outcome, after)) =
      (outcome, after.finish id node outcome) := by
  cases outcome with
  | success => simp [conclude, EvalState.finish]
  | failure => rfl

/-- Work at fault is concluded as a failure of the state before it, with the fault on
record. -/
theorem conclude_error (before : EvalState σ) (fault : Fault) :
    conclude id node before (.error fault) =
      (.failure, (before.fail node fault).finish id node .failure) := rfl

/-! ### Nodes without children -/

/-- The animation for which a node asks in a scene is complete. -/
def Completes (surroundings : Surroundings σ) (id : NodeId) (node : Node Edge)
    (scene : Scene σ) : Prop :=
  ∃ animation direction span frames, node.kind = .animate animation direction span ∧
    scene.frameLength span = .ok frames ∧
      (scene.animate surroundings id animation direction frames).1 = .completed

end Surroundings

/-- What two states report is the same: the faults, and whether STOP is raised. -/
structure EvalState.SameReport (before after : EvalState σ) : Prop where
  faults : after.faults = before.faults
  stopped : after.signals.stopped = before.signals.stopped

namespace EvalState.SameReport

variable {before between after : EvalState σ}

theorem refl (state : EvalState σ) : SameReport state state := ⟨rfl, rfl⟩

theorem trans (one : SameReport before between) (two : SameReport between after) :
    SameReport before after :=
  ⟨two.faults.trans one.faults, two.stopped.trans one.stopped⟩

theorem propel (state : EvalState σ) (axis : Axis) (change : Float32 → Float32) :
    SameReport state (state.propel axis change) := by
  simp only [EvalState.propel]
  split <;> exact ⟨rfl, rfl⟩

theorem drive (state : EvalState σ) (axis : Axis) (factor : Float32)
    (change : Float32 → Float32) : SameReport state (state.drive axis factor change) := by
  simp only [EvalState.drive]
  split
  · exact refl state
  · exact propel state axis change

theorem land (state : EvalState σ) : SameReport state state.land := by
  simp only [EvalState.land]
  split <;> exact ⟨rfl, rfl⟩

theorem hint (state : EvalState σ) (surroundings : Surroundings σ) (id : NodeId)
    (kind : AnimationKind) : SameReport state (state.hint surroundings id kind) := by
  simp only [EvalState.hint]
  split <;> exact ⟨rfl, rfl⟩

end EvalState.SameReport

/-- Whatever a computation yields has a property. -/
def Yields (property : α → Prop) (computation : Except Fault α) : Prop :=
  ∀ value, computation = .ok value → property value

namespace Yields

theorem ok {property : α → Prop} {value : α} (holds : property value) :
    Yields property (.ok value) := by
  intro other same
  cases same
  exact holds

/-- If the last step yields what is wanted, whatever comes before it, then so does the
whole. -/
theorem bind {property : β → Prop} {first : Except Fault α} {next : α → Except Fault β}
    (all : ∀ value, Yields property (next value)) : Yields property (first >>= next) := by
  intro result success
  obtain ⟨value, -, success⟩ := exists_of_bind_eq_ok success
  exact all value result success

end Yields

namespace Surroundings

variable {surroundings : Surroundings σ} {descend : Descent σ} {id : NodeId} {node : Node Edge}

open EvalState (SameReport)

/-- A node without children that asks for no animation is at fault, or succeeds with nothing to
report. -/
theorem work_plain_leaf (leaf : node.kind.leads = false) (plain : node.kind.defersSignal = false)
    (state : EvalState σ) :
    Yields (fun ending => ending.1 = .success ∧ state.SameReport ending.2)
      (surroundings.work descend id node state) := by
  have done : ∀ {after : EvalState σ}, state.SameReport after →
      Yields (fun ending : Ending σ => ending.1 = .success ∧ state.SameReport ending.2)
        after.done :=
    fun same => .ok ⟨rfl, same⟩
  have same : ∀ (scene : Scene σ), state.SameReport (state.withScene scene) := fun _ => ⟨rfl, rfl⟩
  unfold work
  cases kind : node.kind with
  | accelerate x y xMax yMax =>
      exact .bind fun _ => .bind fun _ => .bind fun _ => .bind fun _ =>
        done ((SameReport.drive ..).trans (.drive ..))
  | decelerate x y =>
      exact .bind fun _ => .bind fun _ => done ((SameReport.drive ..).trans (.drive ..))
  | fall acceleration maxSpeed animation =>
      have measured : state.SameReport
          (state.note (.measured id (surroundings.groundDistance state.scene))) := ⟨rfl, rfl⟩
      refine .bind fun factor => .bind fun limit => ?_
      dsimp only
      split
      · exact done (measured.trans (.land _))
      · exact done (measured.trans ((SameReport.drive ..).trans (.hint ..)))
  | jump height duration slowFactor animation =>
      exact .bind fun _ => .bind fun _ => .bind fun _ => .bind fun _ =>
        done ((SameReport.propel ..).trans (.hint ..))
  | setVariable name value mode isGlobal =>
      exact .bind fun _ => .bind fun _ => done (same _)
  | playMusic path repetitions fadeIn =>
      exact .bind fun _ => .bind fun _ => .bind fun _ => .bind fun _ => done (same _)
  | setFrame animation direction frame =>
      exact .bind fun _ => .bind fun _ => done (same _)
  | spawnActor template layer x y name =>
      exact .bind fun _ => .bind fun _ => done (same _)
  | sound | rotate | spawnText | layerState | changeMap => exact .bind fun _ => done (same _)
  | move | eraseSelf | templateLayer | closeMap | quit => exact done (same _)
  | animate => simp [kind, NodeKind.defersSignal] at plain
  | _ => simp [kind, NodeKind.leads] at leaf

/-- No animation leads on. -/
theorem defersSignal_of_leads (leads : node.kind.leads = true) :
    node.kind.defersSignal = false := by
  cases kind : node.kind <;> simp [kind, NodeKind.leads, NodeKind.defersSignal] at leads ⊢

/-- Only an animation completes. -/
theorem not_completes_of_plain (plain : node.kind.defersSignal = false) (scene : Scene σ) :
    ¬ surroundings.Completes id node scene := by
  rintro ⟨animation, direction, span, frames, kind, -⟩
  simp [kind, NodeKind.defersSignal] at plain

/-- Whether an animation completes is up to the controller. -/
theorem completes_iff {animation : AnimationKind} {direction : Direction} {span : AnimationSpan}
    (kind : node.kind = .animate animation direction span) {scene : Scene σ}
    {frames : FrameLength} (length : scene.frameLength span = .ok frames) :
    surroundings.Completes id node scene ↔
      (scene.animate surroundings id animation direction frames).1 = .completed := by
  constructor
  · rintro ⟨_, _, _, _, asks, known, completed⟩
    cases kind.symm.trans asks
    cases length.symm.trans known
    exact completed
  · intro completed
    exact ⟨animation, direction, span, frames, kind, length, completed⟩

/-- The work of an animation of known length raises STOP as soon as the animation completes. -/
theorem work_animate {animation : AnimationKind} {direction : Direction} {span : AnimationSpan}
    (kind : node.kind = .animate animation direction span) (descend : Descent σ)
    {state : EvalState σ} {frames : FrameLength}
    (length : state.scene.frameLength span = .ok frames) :
    ∃ worked, surroundings.work descend id node state = .ok (.success, worked) ∧
      worked.faults = state.faults ∧
      (worked.signals.stopped = true ↔ state.signals.stopped = true ∨
        node.signal = some .stop ∧ surroundings.Completes id node state.scene) := by
  simp only [work, kind, length, bind, Except.bind, completes_iff kind length]
  rcases state.scene.animate surroundings id animation direction frames with ⟨progress, scene⟩
  cases progress with
  | running => exact ⟨state.withScene scene, rfl, rfl, by simp [EvalState.withScene]⟩
  | completed =>
      by_cases raises : node.signal = some .stop
      · exact ⟨_, if_pos raises, rfl, by simp [raises, EvalState.stop, Signals.stop]⟩
      · exact ⟨_, if_neg raises, rfl, by simp [raises, EvalState.note, EvalState.withScene]⟩

/-- What the work of a node without children leaves behind: it is at fault and completes
nothing, or it succeeds, and then only a completed animation may have raised STOP. -/
theorem work_leaf (leaf : node.kind.leads = false) (descend : Descent σ) (state : EvalState σ) :
    (∃ fault, surroundings.work descend id node state = .error fault ∧
      ¬ surroundings.Completes id node state.scene) ∨
    ∃ worked, surroundings.work descend id node state = .ok (.success, worked) ∧
      worked.faults = state.faults ∧
      (worked.signals.stopped = true ↔ state.signals.stopped = true ∨
        node.signal = some .stop ∧ surroundings.Completes id node state.scene) := by
  cases defers : node.kind.defersSignal with
  | false =>
      have idle : ¬ surroundings.Completes id node state.scene :=
        not_completes_of_plain defers state.scene
      cases ended : surroundings.work descend id node state with
      | error fault => exact .inl ⟨fault, rfl, idle⟩
      | ok ending =>
          obtain ⟨success, same⟩ := work_plain_leaf leaf defers state ending ended
          refine .inr ⟨ending.2, by rw [← success], same.faults, ?_⟩
          simp [same.stopped, idle]
  | true =>
      obtain ⟨animation, direction, span, kind⟩ :
          ∃ animation direction span, node.kind = .animate animation direction span := by
        cases kind : node.kind <;> simp [kind, NodeKind.defersSignal] at defers ⊢
      cases length : state.scene.frameLength span with
      | ok frames => exact .inr (work_animate kind descend length)
      | error fault =>
          refine .inl ⟨fault, by simp only [work, kind, length]; rfl, ?_⟩
          rintro ⟨_, _, _, frames, asks, known, -⟩
          cases kind.symm.trans asks
          cases length.symm.trans known

/-! ### Executions -/

/-- How the execution of a node without children ends. -/
theorem execute_leaf (leaf : node.kind.leads = false) (descend : Descent σ)
    (state : EvalState σ) :
    ∃ outcome, ∃ worked : EvalState σ,
      surroundings.execute descend id node state = (outcome, worked.finish id node outcome) ∧
      (outcome = .success ↔ worked.faults = state.faults) ∧
      (worked.signals.stopped = true ↔ state.signals.stopped = true ∨
        node.signal = some .stop ∧ surroundings.Completes id node state.scene) := by
  rw [execute_eq]
  rcases work_leaf leaf descend (state.note (.started id)) with
    ⟨fault, ended, idle⟩ | ⟨worked, ended, faults, stopped⟩
  · have silent : ¬ surroundings.Completes id node state.scene := idle
    rw [ended, conclude_error]
    refine ⟨.failure, _, rfl, ?_, ?_⟩
    · simp [EvalState.fail, EvalState.note]
    · simp [silent, EvalState.fail, EvalState.note]
  · rw [ended, conclude_ok]
    exact ⟨.success, worked, rfl, iff_of_true rfl faults, stopped⟩

/-- How the execution of a node that leads on ends: after a passage with all its arrivals.  Only
a guard has changed something before it goes on. -/
theorem execute_leads (leads : node.kind.leads = true) (descend : Descent σ)
    (state : EvalState σ) :
    ∃ outcome, ∃ entered worked : EvalState σ,
      surroundings.execute descend id node state = (outcome, worked.finish id node outcome) ∧
      Passage descend id node entered
        (surroundings.arrivals descend id node (state.note (.started id))) worked ∧
      entered.signals = state.signals ∧
      (node.kind ≠ .singleGuard → entered.scene = state.scene) := by
  rw [execute_eq]
  cases ended : surroundings.work descend id node (state.note (.started id)) with
  | error fault =>
      rw [arrivals_of_error ended, conclude_error]
      exact ⟨.failure, _, _, rfl, .fail .start fault, rfl, fun _ => rfl⟩
  | ok ending =>
      rcases ending with ⟨outcome, worked⟩
      rw [conclude_ok]
      by_cases guard : node.kind = .singleGuard
      · obtain ⟨entered, passage, same | ⟨-, passed⟩⟩ := work_passage_guard guard ended
        · exact ⟨outcome, entered, worked, rfl, passage, by rw [same]; rfl, (absurd guard ·)⟩
        · exact ⟨outcome, entered, worked, rfl, passage, by rw [passed]; rfl, (absurd guard ·)⟩
      · exact ⟨outcome, _, worked, rfl, work_passage leads guard ended, rfl, fun _ => rfl⟩

/-- An engine wrapper ends as its event does. -/
theorem execute_wrapper (kind : node.kind = .engineWrapper) {edge : Edge}
    (event : node.children.event = some edge) (descend : Descent σ) (state : EvalState σ) :
    let ended := surroundings.follow descend id node .event edge (state.note (.started id))
    surroundings.execute descend id node state = (ended.1, ended.2.finish id node ended.1) := by
  simp only [execute_eq, work, kind, event]
  exact conclude_ok _ _ _

/-- A multi succeeds if no fault is added while it goes through its children. -/
theorem execute_multi (kind : node.kind = .multi) (descend : Descent σ) (state : EvalState σ) :
    let after := surroundings.runAll descend id node node.children.numbered
      (state.note (.started id))
    let outcome := Outcome.ofBool (after.faults.length == state.faults.length)
    surroundings.execute descend id node state = (outcome, after.finish id node outcome) := by
  simp only [execute_eq, work, kind]
  exact conclude_ok _ _ _

/-- A switch ends as the branch for its decision does. -/
theorem execute_switch {mode : SwitchMode} (kind : node.kind = .switch mode)
    (descend : Descent σ) (state : EvalState σ) :
    let decided := surroundings.decide descend id node mode node.children.numbered
      (state.note (.started id))
    let ended := surroundings.branch descend id node decided.1 decided.2
    surroundings.execute descend id node state = (ended.1, ended.2.finish id node ended.1) := by
  simp only [execute_eq, work, kind]
  exact conclude_ok _ _ _

/-- With a level left, to run a node is to execute it with one level less below it. -/
theorem run_succ (stands : surroundings.graph.nodes[id]? = some node) (levels : Nat)
    (state : EvalState σ) :
    surroundings.run (levels + 1) id state =
      surroundings.execute (surroundings.run levels) id node state := by
  simp only [run, stands]

/-- The executions of a node are its own one, and then those below its arrivals. -/
theorem executions_succ (stands : surroundings.graph.nodes[id]? = some node) (levels : Nat)
    (state : EvalState σ) :
    surroundings.executions (levels + 1) id state =
      { id
        before := state
        outcome := (surroundings.run (levels + 1) id state).1
        after := (surroundings.run (levels + 1) id state).2 } ::
      (surroundings.arrivals (surroundings.run levels) id node
        (state.note (.started id))).flatMap fun (child, found) =>
          surroundings.executions levels child found := by
  simp only [executions, stands]

/-- Only nodes of certain kinds are executed. -/
def OnlyOf (surroundings : Surroundings σ) (allowed : NodeKind → Prop)
    (executions : List (Execution σ)) : Prop :=
  ∀ execution ∈ executions, ∀ node, surroundings.graph.nodes[execution.id]? = some node →
    allowed node.kind

instance (allowed : NodeKind → Prop) [DecidablePred allowed] (executions : List (Execution σ)) :
    Decidable (surroundings.OnlyOf allowed executions) :=
  inferInstanceAs (Decidable (∀ execution ∈ executions,
    ∀ node ∈ surroundings.graph.nodes[execution.id]?, allowed node.kind))

/-- Which kinds are executed is a matter of the node itself and of what is below its
arrivals. -/
theorem onlyOf_executions_succ {allowed : NodeKind → Prop}
    (stands : surroundings.graph.nodes[id]? = some node) (levels : Nat) (state : EvalState σ) :
    surroundings.OnlyOf allowed (surroundings.executions (levels + 1) id state) ↔
      allowed node.kind ∧
        ∀ arrival ∈ surroundings.arrivals (surroundings.run levels) id node
          (state.note (.started id)),
          surroundings.OnlyOf allowed (surroundings.executions levels arrival.1 arrival.2) := by
  rw [executions_succ stands, OnlyOf, List.forall_mem_cons]
  simp only [stands, Option.some.injEq, forall_eq', List.mem_flatMap, OnlyOf]
  refine and_congr_right fun _ => ⟨?_, ?_⟩
  · intro all arrival met execution member
    exact all execution ⟨arrival, met, member⟩
  · rintro all execution ⟨arrival, met, member⟩
    exact all arrival met execution member

end Surroundings

end Stagecraft
