/-
Module: Stagecraft.Proofs.Performances
Purpose: Sequences of evaluations and dispatches for one actor, taken apart into the
  evaluations of single nodes with the scenes in which they take place.
Main exports:
  Performance, Surroundings.dispatchPerformances, Surroundings.Performs,
  Surroundings.dispatch_performs, Performs.calls_eq, BehaviorGraph.Session
-/
import Stagecraft.Proofs.Dispatch
import Stagecraft.Proofs.Executions

namespace Stagecraft

variable {σ : Type}

/-- The evaluation of a node for the actor of a scene. -/
structure Performance (σ : Type) where
  surroundings : Surroundings σ
  event : NodeId
  locks : AxisLocks
  scene : Scene σ

namespace Performance

def evaluation (performance : Performance σ) : Evaluation :=
  (performance.surroundings.evaluateNode performance.event performance.locks
    performance.scene).1

/-- The executions of a performance in the order in which they begin. -/
def executions (performance : Performance σ) : List (Execution σ) :=
  performance.surroundings.executions (performance.surroundings.maxDepth + 1)
    performance.event (.begin performance.scene performance.locks)

/-- The executions of a performance are those of its journal. -/
theorem beginnings_journal (performance : Performance σ) :
    beginnings performance.evaluation.journal = performance.executions.map Execution.id := by
  have run := performance.surroundings.beginnings_run (performance.surroundings.maxDepth + 1)
    performance.event (.begin performance.scene performance.locks)
  exact run.trans (List.nil_append _)

end Performance

/-- What is performed while a list is worked off. -/
def performedAlong {S α : Type} (performed : S → α → List (Performance σ)) (step : S → α → S) :
    S → List α → List (Performance σ)
  | _, [] => []
  | state, x :: rest => performed state x ++ performedAlong performed step (step state x) rest

namespace Surroundings

variable (surroundings : Surroundings σ)

/-! ### The performances of evaluations and dispatches -/

/-- What is performed when the node of a name is evaluated. -/
def namedPerformances (root : String) (scene : Scene σ) : List (Performance σ) :=
  (surroundings.graph.resolve? scene.actor.home root false).toList.map fun event =>
    { surroundings, event, locks := {}, scene }

def releasePerformances (key : KeyName) (state : Dispatched σ) : List (Performance σ) :=
  match state.sustained.find? key with
  | none => []
  | some action =>
      action.stopEvent.toList.map fun event =>
        { surroundings, event, locks := {}, scene := (state.finish key).scene }

/-- What is performed when a binding handles what its key does. -/
def handlePerformances (keys : KeyName → KeyEdge) (state : Dispatched σ) (binding : KeyBinding) :
    List (Performance σ) :=
  let edge := keys binding.key
  match binding.event with
  | none => []
  | some event =>
      if binding.sustained then
        let state := if edge.pressed then engage binding event state else state
        if edge.released && !edge.pressed then
          surroundings.releasePerformances binding.key state
        else []
      else if binding.fires edge then [{ surroundings, event, locks := {}, scene := state.scene }]
      else []

/-- What is performed when a sustained action has its turn. -/
def sustainPerformances (pass : RankedPass σ) (entry : KeyName × SustainedAction) :
    List (Performance σ) :=
  [{ surroundings, event := entry.2.event, locks := pass.locks, scene := pass.state.scene }]

def dispatchPerformances (template : Template) (keys : KeyName → KeyEdge) (scene : Scene σ) :
    List (Performance σ) :=
  let handled := surroundings.handleAll template keys scene
  let ranked := handled.sustained.ranked
  let tapped := template.bindings.filter fun binding => binding.isTapped keys
  performedAlong (surroundings.handlePerformances keys) (surroundings.handle keys) { scene }
      template.bindings ++
    performedAlong surroundings.sustainPerformances surroundings.sustainOne { state := handled }
      ranked ++
    performedAlong (fun state binding => surroundings.releasePerformances binding.key state)
      (fun state binding => surroundings.release binding.key state)
      (surroundings.sustain ranked handled).state tapped

/-! ### A dispatch does what it performs -/

/-- A dispatch under way goes on with performances.  Between them at most the sustained
actions of the actor change. -/
inductive Performs (start : Dispatched σ) : List (Performance σ) → Dispatched σ → Prop where
  | rest : Performs start [] start
  | adjust {performances : List (Performance σ)} {state after : Dispatched σ}
      (performs : Performs start performances state) (sustained : SustainedActions)
      (scene : after.scene = { state.scene with actor.sustained := sustained })
      (calls : after.report.calls = state.report.calls) : Performs start performances after
  | invoke {performances : List (Performance σ)} {state : Dispatched σ}
      (performs : Performs start performances state) (reason : CallReason) (event : NodeId)
      (locks : AxisLocks) :
      Performs start (performances ++ [{ surroundings, event, locks, scene := state.scene }])
        (surroundings.invoke reason event locks state).2

variable {surroundings} {start between state after : Dispatched σ}
  {performances more : List (Performance σ)}

namespace Performs

theorem trans (first : surroundings.Performs start performances between)
    (second : surroundings.Performs between more after) :
    surroundings.Performs start (performances ++ more) after := by
  induction second with
  | rest => simpa using first
  | adjust _ sustained scene calls ih => exact ih.adjust sustained scene calls
  | invoke _ reason event locks ih =>
      rw [← List.append_assoc]
      exact ih.invoke reason event locks

/-- The calls of the report are the performances, one for one. -/
theorem calls_eq (performs : surroundings.Performs start performances state) :
    state.report.calls.map (fun call => (call.event, call.evaluation)) =
      start.report.calls.map (fun call => (call.event, call.evaluation)) ++
        performances.map fun performance => (performance.event, performance.evaluation) := by
  induction performs with
  | rest => simp
  | adjust _ _ _ calls ih => rw [calls, ih]
  | invoke _ reason event locks ih =>
      rw [invoke_calls, List.map_append, ih, List.map_append, List.append_assoc]
      rfl

/-- All performances of a dispatch have its surroundings. -/
theorem surroundings_eq (performs : surroundings.Performs start performances state) :
    ∀ performance ∈ performances, performance.surroundings = surroundings := by
  induction performs with
  | rest => exact fun _ member => nomatch member
  | adjust _ _ _ _ ih => exact ih
  | invoke _ _ event locks ih =>
      exact List.forall_mem_append.mpr ⟨ih, by simp⟩

variable (surroundings) in
/-- What each step of a fold performs, the fold performs in turn. -/
theorem foldl {S α : Type} (view : S → Dispatched σ) {performed : S → α → List (Performance σ)}
    {step : S → α → S}
    (each : ∀ state x, surroundings.Performs (view state) (performed state x) (view (step state x)))
    (xs : List α) (start : S) :
    surroundings.Performs (view start) (performedAlong performed step start xs)
      (view (xs.foldl step start)) := by
  induction xs generalizing start with
  | nil => exact .rest
  | cons x rest ih => exact (each start x).trans (ih (step start x))

end Performs

theorem finish_performs (key : KeyName) (state : Dispatched σ) :
    surroundings.Performs state [] (state.finish key) :=
  .adjust .rest (state.sustained.remove key) rfl rfl

/-- To release a key performs its stop event, if there is one. -/
theorem release_performs (key : KeyName) (state : Dispatched σ) :
    surroundings.Performs state (surroundings.releasePerformances key state)
      (surroundings.release key state) := by
  simp only [release, releasePerformances]
  cases state.sustained.find? key with
  | none => exact .rest
  | some action =>
      cases stops : action.stopEvent with
      | none =>
          simp only [stops]
          exact finish_performs key state
      | some event =>
          simp only [stops]
          exact (finish_performs key state).invoke (.ended key) event {}

theorem engage_performs (binding : KeyBinding) (event : NodeId) (state : Dispatched σ) :
    surroundings.Performs state [] (engage binding event state) := by
  simp only [engage]
  split
  · exact .rest
  · exact .adjust .rest (state.sustained.activate binding event) rfl rfl

theorem handle_performs (keys : KeyName → KeyEdge) (state : Dispatched σ)
    (binding : KeyBinding) :
    surroundings.Performs state (surroundings.handlePerformances keys state binding)
      (surroundings.handle keys state binding) := by
  simp only [handle, handlePerformances]
  cases binding.event with
  | none => exact .rest
  | some event =>
      simp only
      split
      · have engaged : surroundings.Performs state []
            (if (keys binding.key).pressed = true then engage binding event state else state) := by
          split
          · exact engage_performs binding event state
          · exact .rest
        simp only [handleSustained]
        split
        · exact engaged.trans (release_performs binding.key _)
        · exact engaged
      · split
        · exact Performs.rest.invoke (.edge binding.key) event {}
        · exact .rest

/-- Every turn of a sustained action is one performance. -/
theorem sustainOne_performs (pass : RankedPass σ) (entry : KeyName × SustainedAction) :
    surroundings.Performs pass.state (surroundings.sustainPerformances pass entry)
      (surroundings.sustainOne pass entry).state := by
  have invoked : surroundings.Performs pass.state (surroundings.sustainPerformances pass entry)
      (surroundings.invoke (.held entry.1) entry.2.event pass.locks pass.state).2 :=
    Performs.rest.invoke (.held entry.1) entry.2.event pass.locks
  simp only [sustainOne]
  split
  · exact invoked.adjust (Dispatched.sustained _ |>.remove entry.1) rfl rfl
  · exact invoked

/-- **A dispatch goes through its performances.** -/
theorem dispatch_performs (template : Template) (keys : KeyName → KeyEdge) (scene : Scene σ) :
    ∃ ended : Dispatched σ,
      surroundings.dispatch template keys scene = (ended.report, ended.scene) ∧
        surroundings.Performs { scene } (surroundings.dispatchPerformances template keys scene)
          ended := by
  have handled : surroundings.Performs { scene } _ (surroundings.handleAll template keys scene) :=
    Performs.foldl surroundings id (handle_performs keys) template.bindings { scene }
  have sustained : surroundings.Performs (surroundings.handleAll template keys scene) _
      (surroundings.sustain _ (surroundings.handleAll template keys scene)).state :=
    Performs.foldl surroundings RankedPass.state sustainOne_performs
      (surroundings.handleAll template keys scene).sustained.ranked
      { state := surroundings.handleAll template keys scene }
  have released := fun state => Performs.foldl surroundings id
    (fun state (binding : KeyBinding) => release_performs binding.key state)
    (template.bindings.filter fun binding => binding.isTapped keys) state
  exact ⟨_, rfl, (handled.trans sustained).trans (released _)⟩

end Surroundings

/-! ### What happens to an actor -/

/-- What may happen to an actor on a stage of one graph: evaluations of nodes by name or
by number, and dispatches, in any order and any surroundings, with their performances.
Between them everything may change but the guards that have let the actor pass. -/
inductive BehaviorGraph.Session (graph : BehaviorGraph) (first : Scene σ) :
    List (Performance σ) → Scene σ → Prop where
  | begin : Session graph first [] first
  | meanwhile {performances : List (Performance σ)} {scene : Scene σ}
      (session : Session graph first performances scene) (other : Scene σ)
      (guards : other.actor.guards = scene.actor.guards) :
      Session graph first performances other
  | evaluate {performances : List (Performance σ)} {scene : Scene σ}
      (session : Session graph first performances scene) {surroundings : Surroundings σ}
      (shared : surroundings.graph = graph) (root : String) :
      Session graph first (performances ++ surroundings.namedPerformances root scene)
        (surroundings.evaluate root scene).2
  | evaluateNode {performances : List (Performance σ)} {scene : Scene σ}
      (session : Session graph first performances scene) {surroundings : Surroundings σ}
      (shared : surroundings.graph = graph) (event : NodeId) (locks : AxisLocks) :
      Session graph first (performances ++ [{ surroundings, event, locks, scene : Performance σ }])
        (surroundings.evaluateNode event locks scene).2
  | dispatch {performances : List (Performance σ)} {scene : Scene σ}
      (session : Session graph first performances scene) {surroundings : Surroundings σ}
      (shared : surroundings.graph = graph) (template : Template) (keys : KeyName → KeyEdge) :
      Session graph first
        (performances ++ surroundings.dispatchPerformances template keys scene)
        (surroundings.dispatch template keys scene).2

/-- All performances of a session are on the same graph. -/
theorem BehaviorGraph.Session.graph_eq {graph : BehaviorGraph} {first last : Scene σ}
    {performances : List (Performance σ)} (session : graph.Session first performances last) :
    ∀ performance ∈ performances, performance.surroundings.graph = graph := by
  induction session with
  | begin => exact fun _ member => nomatch member
  | meanwhile _ _ _ ih => exact ih
  | evaluate _ shared root ih =>
      refine List.forall_mem_append.mpr ⟨ih, ?_⟩
      intro performance member
      obtain ⟨event, -, rfl⟩ := List.mem_map.mp member
      exact shared
  | evaluateNode _ shared event locks ih =>
      exact List.forall_mem_append.mpr ⟨ih, by simpa using shared⟩
  | @dispatch _ scene _ surroundings shared template keys ih =>
      obtain ⟨ended, -, performs⟩ := surroundings.dispatch_performs template keys scene
      refine List.forall_mem_append.mpr ⟨ih, ?_⟩
      intro performance member
      rw [performs.surroundings_eq performance member]
      exact shared

end Stagecraft
