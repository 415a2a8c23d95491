/-
Module: Stagecraft.Proofs.Verdicts
Purpose: What the outcome of an evaluation says about its faults.
Main exports:
  Surroundings.success_iff_of_multi, Surroundings.faults_run_eq_iff,
  Surroundings.success_iff_of_plain, outcome_tells_faults
-/
import Stagecraft.Proofs.Endings
import Stagecraft.Proofs.Footprint
import Stagecraft.Proofs.OneShot
import Stagecraft.Proofs.Walk

namespace Stagecraft

variable {σ : Type}

@[simp] theorem Outcome.ofBool_eq_success_iff (decision : Bool) :
    Outcome.ofBool decision = .success ↔ decision = true := by
  cases decision <;> simp [ofBool]

/-- A root that stands in a graph means a node, or nothing at all. -/
theorem Root.exists_of_standsIn {graph : BehaviorGraph} (indexed : graph.Indexed) {root : Root}
    (stands : root.StandsIn graph) {home : Namespace} {id : NodeId}
    (meant : root.id? graph home = some id) : ∃ node, graph.nodes[id]? = some node := by
  cases root with
  | node other locks =>
      cases meant
      exact ⟨_, List.getElem?_eq_getElem stands⟩
  | name text =>
      obtain ⟨node, found, -⟩ := indexed.exists_of_visible ⟨text, meant⟩
      exact ⟨node, found⟩

namespace Surroundings

variable {surroundings : Surroundings σ} {id : NodeId} {node : Node Edge}

/-! ### Multis -/

/-- A multi succeeds just if there are no more faults than before. -/
theorem success_iff_of_multi (stands : surroundings.graph.nodes[id]? = some node)
    (kind : node.kind = .multi) (levels : Nat) (state : EvalState σ) :
    (surroundings.run levels id state).1 = .success ↔
      (surroundings.run levels id state).2.faults = state.faults := by
  cases levels with
  | zero => simp [run, stands, EvalState.fail]
  | succ levels =>
      have added := (surroundings.persists_advances.run (levels + 1) id state).faults
      rw [run_succ stands, execute_multi kind] at added ⊢
      simp only [EvalState.finish_faults, Outcome.ofBool_eq_success_iff, beq_iff_eq] at added ⊢
      constructor
      · intro same
        exact (added.eq_of_length same.symm).symm
      · intro same
        rw [same]

/-- No fault has been added after a run just if none has been at any moment of it. -/
theorem faults_run_eq_iff (levels : Nat) (id : NodeId) (state : EvalState σ) :
    (surroundings.run levels id state).2.faults = state.faults ↔
      ∀ moment ∈ surroundings.moments levels id state, moment.faults = state.faults := by
  have spans := surroundings.persists_advances.spans_moments levels id state
  constructor
  · intro same moment member
    have upto := (spans.upto moment member).faults
    rw [same] at upto
    exact upto.eq_of_length_le (spans.since moment member).faults.length_le
  · intro all
    apply all
    cases levels with
    | zero => simp [moments]
    | succ levels => simp [moments]

/-! ### Evaluations without tests and guards -/

/-- A child that leads nowhere is a fault, and else it is up to the node that it leads to. -/
theorem success_iff_of_follow {descend : Descent σ} {role : Role} {edge : Edge}
    {state : EvalState σ}
    (led : ∀ child, surroundings.target node role state.scene edge = .ok child →
      let ended := descend child (state.note (.followed id role))
      ended.1 = .success ↔ ended.2.faults = state.faults) :
    (surroundings.follow descend id node role edge state).1 = .success ↔
      (surroundings.follow descend id node role edge state).2.faults = state.faults := by
  have same : (state.note (.followed id role)).scene = state.scene := rfl
  simp only [follow, same]
  cases leads : surroundings.target node role state.scene edge with
  | ok child => exact led child leads
  | error fault => simp [EvalState.fail, EvalState.note]

/-- Where neither a test nor a guard is executed, a run succeeds just if there are no more faults
than before. -/
theorem success_iff_of_plain {document : Document}
    (loaded : BehaviorGraph.load document = .ok surroundings.graph) (levels : Nat) {id : NodeId}
    (stands : ∃ node, surroundings.graph.nodes[id]? = some node) (state : EvalState σ)
    (plain : surroundings.OnlyOf (fun kind => kind.isTest = false ∧ kind ≠ .singleGuard)
      (surroundings.executions levels id state)) :
    (surroundings.run levels id state).1 = .success ↔
      (surroundings.run levels id state).2.faults = state.faults := by
  have linked := BehaviorGraph.load_linked loaded
  induction levels generalizing id state with
  | zero =>
      obtain ⟨node, stands⟩ := stands
      simp [run, stands, EvalState.fail]
  | succ levels ih =>
      obtain ⟨node, stands⟩ := stands
      obtain ⟨⟨notTest, notGuard⟩, below⟩ := (onlyOf_executions_succ stands levels state).mp plain
      cases kind : node.kind with
      | multi => exact success_iff_of_multi stands kind (levels + 1) state
      | engineWrapper =>
          -- Its outcome is that of its event, which has to be given and leads to a node.
          obtain ⟨edge, event⟩ :=
            BehaviorGraph.exists_event_of_needsEvent loaded stands (by rw [kind]; rfl)
          rw [run_succ stands, execute_wrapper kind event]
          refine (success_iff_of_follow fun child leads => ?_).trans (by simp [EvalState.note])
          have member := Children.event_mem_toList.mpr event
          obtain ⟨childNode, standsChild, -⟩ :=
            linked.indexed.exists_of_visible (visible_of_target linked stands member leads)
          apply ih ⟨childNode, standsChild⟩
          have scene : ((state.note (.started id)).note (.followed id .event)).scene =
              (state.note (.started id)).scene := rfl
          simp only [arrivals, kind, eventArrivals, event, arrival, scene, leads] at below
          simpa using below
      | singleGuard => exact absurd kind notGuard
      | onGround | switch | collision | mouseButton | compare =>
          simp [kind, NodeKind.isTest] at notTest
      | _ =>
          obtain ⟨outcome, worked, ended, faults, -⟩ :=
            execute_leaf (by rw [kind]; rfl) (surroundings.run levels) state
          rw [run_succ stands, ended, EvalState.finish_faults]
          exact faults

/-- **Outcomes and faults agree.**  A multi succeeds just if no fault is added at any moment
of its run, however deep below it.  And if neither a test nor a guard is executed, an
evaluation succeeds just if it reports no fault. -/
theorem outcome_tells_faults {document : Document} {graph : BehaviorGraph}
    (loaded : BehaviorGraph.load document = .ok graph) {surroundings : Surroundings σ}
    (shared : surroundings.graph = graph) :
    (∀ levels id node state, graph.nodes[id]? = some node → node.kind = .multi →
      ((surroundings.run levels id state).1 = .success ↔
        ∀ moment ∈ surroundings.moments levels id state, moment.faults = state.faults)) ∧
    ∀ (root : Root) (scene : Scene σ), root.StandsIn graph →
      surroundings.OnlyOf (fun kind => kind.isTest = false ∧ kind ≠ .singleGuard)
          (surroundings.executionsFrom root scene) →
        let report := (surroundings.evaluateRoot root scene).1
        report.outcome = .success ↔ report.faults = [] := by
  subst shared
  constructor
  · intro levels id node state stands kind
    exact (success_iff_of_multi stands kind levels state).trans (faults_run_eq_iff levels id state)
  · intro root scene stands plain
    rcases surroundings.evaluateRoot_cases root scene with
      ⟨id, meant, same, executions, -⟩ | ⟨fault, same, -, -⟩
    · rw [executions] at plain
      rw [same]
      exact success_iff_of_plain loaded (surroundings.maxDepth + 1)
        (Root.exists_of_standsIn (BehaviorGraph.load_linked loaded).indexed stands meant) _ plain
    · simp [same]

end Surroundings

/-! ### An example: a step that nobody knows -/

/-- A dancer who tries a step and bows if it does not work out, and who bows once more for an
encore. -/
def ballet : Document :=
  { mapEvents := [ { name := "Bow", kind := "move" } ]
    actors :=
      [ { name := "Dancer"
          events :=
            [ { name := "Dance", kind := "multi", properties := [textProperty "1" "Try"] },
              { name := "Try", kind := "switch"
                properties := [textProperty "1" "*step", textProperty "FAILURE" "Bow"] },
              { name := "Encore", kind := "engine-wrapper"
                properties := [textProperty "EVENT" "Bow"] } ] } ] }

/-- The graph of the ballet: the bow is number 0, the dance number 1, the encore number 3. -/
def balletGraph : BehaviorGraph := (BehaviorGraph.load ballet).toOption.getD {}

def balletEvening : Surroundings Controller := rehearsal balletGraph 8 0.5 (.fixed false 0) []

/-- The scene of a dancer whose step is unknown. -/
def dancerScene : Scene Controller :=
  { actor := { id := 1, template := "Dancer", store := .ofList [("step", .text "Leap")] }
    map := .empty
    requests := []
    animation := .instant }

/-- The bow makes good for the step as far as the test is concerned, but the dance has failed.
There is nothing wrong with the encore. -/
theorem outcome_tells_faults_ballet :
    let begun := EvalState.begin dancerScene {}
    let encore := (balletEvening.evaluateRoot (.name "Encore") dancerScene).1
    BehaviorGraph.load ballet = .ok balletGraph ∧
      (balletEvening.run 8 2 begun).1 = .success ∧
      (balletEvening.run 9 1 begun).1 = .failure ∧
      (¬ ∀ moment ∈ balletEvening.moments 9 1 begun, moment.faults = []) ∧
      (Root.name "Encore").StandsIn balletGraph ∧
      balletEvening.OnlyOf (fun kind => kind.isTest = false ∧ kind ≠ .singleGuard)
        (balletEvening.executionsFrom (.name "Encore") dancerScene) ∧
      encore.outcome = .success ∧ encore.faults = [] := by
  intro begun encore
  have loaded : BehaviorGraph.load ballet = .ok balletGraph := by rfl
  have stands : balletGraph.nodes[1]? = some (balletGraph.nodes[1]?.getD default) := by rfl
  have shared : balletEvening.graph = balletGraph := rfl
  obtain ⟨multis, evaluations⟩ := Surroundings.outcome_tells_faults loaded shared
  have plain : balletEvening.OnlyOf (fun kind => kind.isTest = false ∧ kind ≠ .singleGuard)
      (balletEvening.executionsFrom (.name "Encore") dancerScene) := by
    decide
  have dance := multis 9 1 _ begun stands (by rfl)
  have failed : (balletEvening.run 9 1 begun).1 = .failure := by decide
  have tried : (balletEvening.run 8 2 begun).1 = .success := by decide
  have bowed : encore.outcome = .success := by decide
  refine ⟨loaded, tried, failed, ?_, trivial, plain, bowed, ?_⟩
  · rw [← show begun.faults = [] from rfl, ← dance, failed]
    decide
  · exact (evaluations (.name "Encore") dancerScene trivial plain).mp bowed

end Stagecraft
