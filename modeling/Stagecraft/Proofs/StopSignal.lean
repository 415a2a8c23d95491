/-
Module: Stagecraft.Proofs.StopSignal
Purpose: Which executions raise STOP, and what does not begin any more once it is raised.
Main exports:
  Surroundings.Raises, Surroundings.run_stopped_iff, executions_of_multi, stopRaised_iff,
  stop_ends_evaluation
-/
import Stagecraft.Proofs.Endings
import Stagecraft.Proofs.Footprint
import Stagecraft.Proofs.Walk

namespace Stagecraft

variable {σ : Type}

namespace Surroundings

variable {surroundings : Surroundings σ} {descend : Descent σ} {id : NodeId} {node : Node Edge}
  {before after : EvalState σ}

/-! ### Raising STOP -/

/-- An execution raises STOP.  Its node has that signal, and it succeeds; if it asks for an
animation, it has to be told that this is complete. -/
inductive Raises (surroundings : Surroundings σ) (execution : Execution σ) : Prop where
  | success {node : Node Edge} (stands : surroundings.graph.nodes[execution.id]? = some node)
      (signal : node.signal = some .stop) (plain : node.kind.defersSignal = false)
      (success : execution.outcome = .success)
  | completion {node : Node Edge} (stands : surroundings.graph.nodes[execution.id]? = some node)
      (signal : node.signal = some .stop)
      (completes : surroundings.Completes execution.id node execution.before.scene)

/-- Which executions raise STOP: a node that signals it at the end of a success, or an
animation that completes. -/
theorem raises_iff {execution : Execution σ}
    (stands : surroundings.graph.nodes[execution.id]? = some node) :
    surroundings.Raises execution ↔ node.signal = some .stop ∧
      (node.kind.defersSignal = false ∧ execution.outcome = .success ∨
        surroundings.Completes execution.id node execution.before.scene) := by
  constructor
  · rintro (⟨found, signal, plain, success⟩ | ⟨found, signal, completes⟩) <;>
      cases stands.symm.trans found
    · exact ⟨signal, .inl ⟨plain, success⟩⟩
    · exact ⟨signal, .inr completes⟩
  · rintro ⟨signal, ⟨plain, success⟩ | completes⟩
    · exact .success stands signal plain success
    · exact .completion stands signal completes

/-- On a passage STOP is raised by what happens below, and by nothing else. -/
theorem Passage.stopped_iff {below : NodeId → EvalState σ → List (Execution σ)}
    (children : ∀ child found, (descend child found).2.signals.stopped = true ↔
      found.signals.stopped = true ∨
        ∃ execution ∈ below child found, surroundings.Raises execution)
    {met : List (Arrival σ)} (passage : Passage descend id node before met after) :
    after.signals.stopped = true ↔ before.signals.stopped = true ∨
      ∃ execution ∈ met.flatMap fun (child, found) => below child found,
        surroundings.Raises execution := by
  induction passage with
  | start => simp
  | look _ role ih => exact ih
  | fail _ fault ih => exact ih
  | enter _ child ih =>
      rw [children, ih]
      simp only [List.flatMap_append, List.flatMap_singleton, List.mem_append, or_and_right,
        exists_or, or_assoc]

/-- After a run STOP is raised if it was before, or if one of the executions has raised it. -/
theorem run_stopped_iff (levels : Nat) (id : NodeId) (state : EvalState σ) :
    (surroundings.run levels id state).2.signals.stopped = true ↔
      state.signals.stopped = true ∨
        ∃ execution ∈ surroundings.executions levels id state,
          surroundings.Raises execution := by
  induction levels generalizing id state with
  | zero =>
      simp only [run, executions]
      split <;> simp [EvalState.note, EvalState.fail]
  | succ levels ih =>
      cases stands : surroundings.graph.nodes[id]? with
      | none => simp [run, executions, stands, EvalState.note]
      | some node =>
          rw [executions_succ stands, run_succ stands, List.exists_mem_cons_iff, raises_iff stands]
          -- STOP is raised during the work of an animation and after that of any other node.
          cases leads : node.kind.leads with
          | false =>
              obtain ⟨outcome, worked, ended, -, stopped⟩ :=
                execute_leaf leads (surroundings.run levels) state
              rw [ended, arrivals_of_not_leads leads, EvalState.finish_stopped_iff, stopped]
              simp only [List.flatMap_nil, List.not_mem_nil, false_and, exists_false, or_false]
              tauto
          | true =>
              have plain : node.kind.defersSignal = false := defersSignal_of_leads leads
              have idle : ¬ surroundings.Completes id node state.scene :=
                not_completes_of_plain plain state.scene
              obtain ⟨outcome, entered, worked, ended, passage, signals, -⟩ :=
                execute_leads leads (surroundings.run levels) state
              rw [ended, EvalState.finish_stopped_iff, passage.stopped_iff ih, signals]
              simp only [plain, idle, true_and, and_true, or_false, or_assoc]
              rw [and_comm, or_comm (b := _ ∧ _)]

/-! ### What STOP keeps from beginning -/

/-- As long as a node goes on with its numbered children, STOP is not raised. -/
theorem runAllArrivals_unstopped (entries : List (Int × Edge)) {state : EvalState σ}
    (going : state.signals.stopped = false) :
    ∀ arrival ∈ surroundings.runAllArrivals descend id node entries state,
      arrival.2.signals.stopped = false := by
  induction entries generalizing state with
  | nil => exact List.forall_mem_nil _
  | cons entry rest ih =>
      rcases entry with ⟨key, edge⟩
      simp only [runAllArrivals]
      refine List.forall_mem_append.mpr ⟨?_, ?_⟩
      · simp only [arrival]
        split
        · exact List.forall_mem_singleton.mpr going
        · exact List.forall_mem_nil _
      · split
        · exact List.forall_mem_nil _
        · next unstopped => exact ih (by simpa using unstopped)

/-- What is executed below a multi begins with its children.  All of these but the first one
begin only while STOP is not raised. -/
theorem executions_of_multi {key : Int} {edge : Edge} {rest : List (Int × Edge)} (levels : Nat)
    (stands : surroundings.graph.nodes[id]? = some node) (kind : node.kind = .multi)
    (numbered : node.children.numbered = (key, edge) :: rest) (state : EvalState σ) :
    ∃ later,
      (surroundings.executions (levels + 1) id state).tail =
        (surroundings.arrival id node (.numbered key) edge (state.note (.started id)) ++
          later).flatMap (fun (child, found) => surroundings.executions levels child found) ∧
      ∀ arrival ∈ later, arrival.2.signals.stopped = false := by
  rw [executions_succ stands, List.tail_cons]
  simp only [arrivals, kind, numbered, runAllArrivals]
  refine ⟨_, rfl, ?_⟩
  split
  · exact List.forall_mem_nil _
  · next going => exact runAllArrivals_unstopped rest (by simpa using going)

/-! ### STOP in the report -/

variable (root : Root) (scene : Scene σ)

/-- Once raised, STOP stays so up to the end of the evaluation. -/
theorem stopRaised_of_moment :
    ∀ moment ∈ surroundings.momentsFrom root scene, moment.signals.stopped = true →
      (surroundings.evaluateRoot root scene).1.stopRaised = true := by
  rcases surroundings.evaluateRoot_cases root scene with
    ⟨id, -, same, -, moments⟩ | ⟨_, -, -, moments⟩
  · rw [same, moments]
    intro moment member
    exact ((surroundings.persists_advances.spans_moments _ id _).upto moment member).stopped
  · rw [moments]
    exact List.forall_mem_nil _

/-- An evaluation raises STOP if and only if one of its executions does. -/
theorem stopRaised_iff :
    (surroundings.evaluateRoot root scene).1.stopRaised = true ↔
      ∃ execution ∈ surroundings.executionsFrom root scene, surroundings.Raises execution := by
  rcases surroundings.evaluateRoot_cases root scene with
    ⟨id, -, same, executions, -⟩ | ⟨_, same, executions, -⟩
  · have calm : (EvalState.begin scene root.locks).signals.stopped = false := rfl
    have raised := surroundings.run_stopped_iff (surroundings.maxDepth + 1) id
      (.begin scene root.locks)
    simp only [calm, Bool.false_eq_true, false_or] at raised
    rw [same, executions]
    exact raised
  · simp [same, executions]

/-- **STOP ends an evaluation in good order.**  Once it is raised it stays raised, up to the
report.  All children of a multi but its first one begin only while it is not raised.  And the
report says that it was raised just if one of the executions of the journal has raised it. -/
theorem stop_ends_evaluation (surroundings : Surroundings σ) (root : Root) (scene : Scene σ) :
    let report := (surroundings.evaluateRoot root scene).1
    ((surroundings.momentsFrom root scene).Pairwise fun earlier later =>
        earlier.signals.stopped = true → later.signals.stopped = true) ∧
      (∀ moment ∈ surroundings.momentsFrom root scene,
        moment.signals.stopped = true → report.stopRaised = true) ∧
      (∀ levels id node state key edge rest, surroundings.graph.nodes[id]? = some node →
        node.kind = .multi → node.children.numbered = (key, edge) :: rest →
          ∃ later,
            (surroundings.executions (levels + 1) id state).tail =
              (surroundings.arrival id node (.numbered key) edge (state.note (.started id)) ++
                later).flatMap (fun (child, found) => surroundings.executions levels child found) ∧
            ∀ arrival ∈ later, arrival.2.signals.stopped = false) ∧
      (report.stopRaised = true ↔
        ∃ execution ∈ surroundings.executionsFrom root scene, surroundings.Raises execution) ∧
      beginnings report.journal = (surroundings.executionsFrom root scene).map Execution.id := by
  intro report
  have ordered := surroundings.persists_advances.momentsFrom_ordered root scene
  refine ⟨ordered.imp fun advances => advances.stopped, stopRaised_of_moment root scene, ?_,
    stopRaised_iff root scene, beginnings_evaluateRoot root scene⟩
  intro levels id node state key edge rest stands kind numbered
  exact executions_of_multi levels stands kind numbered state

end Surroundings

/-! ### An example: a round that an alarm puts an end to -/

/-- A watchman who listens on the stairs before climbing them, and sleeps after the round.  To
listen means to raise an alarm as soon as a bell has rung out. -/
def nightWatch : Document :=
  { actors :=
      [ { name := "Watchman"
          events :=
            [ { name := "Round", kind := "multi"
                properties := [textProperty "1" "Stairs", textProperty "2" "Sleep"] },
              { name := "Stairs", kind := "multi"
                properties := [textProperty "1" "Listen", textProperty "2" "Climb"] },
              { name := "Listen", kind := "switch", properties := [textProperty "1" "Bell"] },
              { name := "Bell", kind := "animate", properties := [textProperty "SIGNAL" "STOP"] },
              { name := "Climb", kind := "move" },
              { name := "Sleep", kind := "erase-self" } ] } ] }

/-- The graph of the night watch: the round is number 0, the bell number 3. -/
def nightWatchGraph : BehaviorGraph := (BehaviorGraph.load nightWatch).toOption.getD {}

/-- A night in which every bell rings out at once. -/
def quietNight : Surroundings Controller := rehearsal nightWatchGraph 8 0.5 (.fixed false 0) []

/-- The scene of the watchman. -/
def watchmanScene : Scene Controller :=
  { actor := { id := 1, template := "Watchman" }
    map := .empty
    requests := []
    animation := .instant }

/-- The alarm is raised below a condition on the stairs.  The watchman neither climbs them nor
gets any sleep. -/
theorem stop_ends_evaluation_nightWatch :
    let begun := EvalState.begin watchmanScene {}
    let report := (quietNight.evaluateRoot (.name "Round") watchmanScene).1
    let onStairs := (begun.note (.started 0)).note (.followed 0 (.numbered 1))
    BehaviorGraph.load nightWatch = .ok nightWatchGraph ∧
      beginnings report.journal = [0, 1, 2, 3] ∧
      report.stopRaised = true ∧
      (∃ execution ∈ quietNight.executionsFrom (.name "Round") watchmanScene,
        quietNight.Raises execution) ∧
      ∃ later,
        (quietNight.executions 9 0 begun).tail =
          ((1, onStairs) :: later).flatMap (fun (child, found) =>
            quietNight.executions 8 child found) ∧
        ∀ arrival ∈ later, arrival.2.signals.stopped = false := by
  intro begun report onStairs
  have raised : report.stopRaised = true := by decide
  obtain ⟨-, -, children, raises, journal⟩ :=
    quietNight.stop_ends_evaluation (.name "Round") watchmanScene
  have executed : (quietNight.executionsFrom (.name "Round") watchmanScene).map Execution.id =
      [0, 1, 2, 3] := by decide
  have stands : quietNight.graph.nodes[0]? = some (nightWatchGraph.nodes[0]?.getD default) := by rfl
  exact ⟨by rfl, journal.trans executed, raised, raises.mp raised,
    children 8 0 _ begun 1 (.node 1) [(2, .node 5)] stands (by rfl) (by rfl)⟩

end Stagecraft
