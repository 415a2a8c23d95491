/-
Module: Stagecraft.Proofs.Purity
Purpose: To test something changes nothing, whatever the tests are made of.
Main exports:
  NodeKind.isPassive, EvalState.Untouched, Surroundings.run_untouched,
  Surroundings.decide_any_of_failures, tests_change_nothing
-/
import Stagecraft.Proofs.Endings
import Stagecraft.Proofs.Moments
import Stagecraft.Proofs.Walk

namespace Stagecraft

variable {σ : Type}

/-! ### What is not touched -/

/-- The kinds that change nothing by themselves: tests, multis and engine wrappers. -/
def NodeKind.isPassive : NodeKind → Bool
  | .multi | .engineWrapper => true
  | kind => kind.isTest

/-- A passive kind only leads on, and is no guard. -/
theorem NodeKind.leads_of_isPassive {kind : NodeKind} (passive : kind.isPassive = true) :
    kind.leads = true ∧ kind ≠ .singleGuard := by
  cases kind <;> simp [isPassive, isTest, leads] at passive ⊢

/-- Everything that outlasts an evaluation is the same: the scene with the actor, the variables
of the map, the requests and the animations, and the axes that are taken. -/
structure EvalState.Untouched (before after : EvalState σ) : Prop where
  scene : after.scene = before.scene
  locks : after.signals.locks = before.signals.locks

namespace EvalState.Untouched

variable {before between after : EvalState σ}

theorem refl (state : EvalState σ) : Untouched state state := ⟨rfl, rfl⟩

theorem trans (one : Untouched before between) (two : Untouched between after) :
    Untouched before after :=
  ⟨two.scene.trans one.scene, two.locks.trans one.locks⟩

theorem note (state : EvalState σ) (entry : JournalEntry) : Untouched state (state.note entry) :=
  ⟨rfl, rfl⟩

theorem fail (state : EvalState σ) (node : Node Edge) (fault : Fault) :
    Untouched state (state.fail node fault) :=
  ⟨rfl, rfl⟩

theorem finish (state : EvalState σ) (id : NodeId) (node : Node Edge) (outcome : Outcome) :
    Untouched state (state.finish id node outcome) :=
  ⟨state.finish_scene id node outcome, state.finish_locks id node outcome⟩

end EvalState.Untouched

namespace Surroundings

variable {surroundings : Surroundings σ} {descend : Descent σ} {id : NodeId} {node : Node Edge}
  {before after : EvalState σ}

open EvalState (Untouched)

/-- A passage touches nothing if the descents on the way do not. -/
theorem Passage.untouched {met : List (Arrival σ)}
    (passage : Passage descend id node before met after)
    (below : ∀ arrival ∈ met, arrival.2.Untouched (descend arrival.1 arrival.2).2) :
    before.Untouched after := by
  induction passage with
  | start => exact .refl _
  | look _ role ih => exact (ih below).trans (.note _ _)
  | fail _ fault ih => exact (ih below).trans (.fail _ _ fault)
  | enter _ child ih =>
      obtain ⟨earlier, last⟩ := List.forall_mem_append.mp below
      exact (ih earlier).trans (last _ (List.mem_singleton_self _))

/-- A run touches nothing if only tests, multis and engine wrappers are executed. -/
theorem run_untouched (levels : Nat) (id : NodeId) (state : EvalState σ)
    (passive : surroundings.OnlyOf (fun kind => kind.isPassive = true)
      (surroundings.executions levels id state)) :
    state.Untouched (surroundings.run levels id state).2 := by
  induction levels generalizing id state with
  | zero =>
      simp only [run]
      split
      · exact .fail _ _ _
      · exact .note _ _
  | succ levels ih =>
      cases stands : surroundings.graph.nodes[id]? with
      | none =>
          simp only [run, stands]
          exact .note _ _
      | some node =>
          obtain ⟨own, below⟩ := (onlyOf_executions_succ stands levels state).mp passive
          obtain ⟨leads, plain⟩ := NodeKind.leads_of_isPassive own
          obtain ⟨outcome, entered, worked, ended, passage, signals, scene⟩ :=
            execute_leads leads (surroundings.run levels) state
          have start : state.Untouched entered := ⟨scene plain, by rw [signals]⟩
          have through : entered.Untouched worked :=
            passage.untouched fun arrival met => ih arrival.1 arrival.2 (below arrival met)
          rw [run_succ stands, ended]
          exact (start.trans through).trans (.finish _ _ _ _)

/-! ### A switch without success -/

/-- Where all conditions fail, none of them decides for success. -/
theorem decide_any_of_failures (entries : List (Int × Edge)) (state : EvalState σ)
    (fails : ∀ condition ∈ surroundings.decideArrivals descend id node .any entries state,
      (descend condition.1 condition.2).1 = .failure) :
    (surroundings.decide descend id node .any entries state).1 = false := by
  induction entries generalizing state with
  | nil => rfl
  | cons entry rest ih =>
      rcases entry with ⟨key, edge⟩
      simp only [decide, decideArrivals] at fails ⊢
      obtain ⟨first, later⟩ := List.forall_mem_append.mp fails
      rcases ended : surroundings.follow descend id node (.numbered key) edge state
        with ⟨outcome, after⟩
      have failed : outcome = .failure := by
        simp only [follow] at ended
        simp only [arrival] at first
        split at ended
        · next child leads =>
            simp only [leads, List.forall_mem_singleton, ended] at first
            exact first
        · exact (Prod.mk.inj ended).1.symm
      subst failed
      simp only [ended] at later ⊢
      exact ih after later

/-- The arrivals at the conditions of a switch that is evaluated with some levels below it,
until one of them decides. -/
def conditions (surroundings : Surroundings σ) (levels : Nat) (id : NodeId) (node : Node Edge)
    (mode : SwitchMode) (state : EvalState σ) : List (Arrival σ) :=
  surroundings.decideArrivals (surroundings.run levels) id node mode node.children.numbered
    (state.note (.started id))

/-- A switch that needs one success, finds none, and has no branch for failure fails.  Nothing
but its conditions is executed below it, and nothing is touched if these are passive. -/
theorem run_switch_of_failures (stands : surroundings.graph.nodes[id]? = some node)
    (kind : node.kind = .switch .any) (bare : node.children.failure = none) (levels : Nat)
    (state : EvalState σ)
    (fails : ∀ condition ∈ surroundings.conditions levels id node .any state,
      (surroundings.run levels condition.1 condition.2).1 = .failure)
    (passive : ∀ condition ∈ surroundings.conditions levels id node .any state,
      surroundings.OnlyOf (fun kind => kind.isPassive = true)
        (surroundings.executions levels condition.1 condition.2)) :
    ∃ after, surroundings.run (levels + 1) id state = (.failure, after) ∧
      state.Untouched after ∧
      surroundings.executions (levels + 1) id state =
        { id, before := state, outcome := .failure, after } ::
          (surroundings.conditions levels id node .any state).flatMap fun (child, found) =>
            surroundings.executions levels child found := by
  rcases decided : surroundings.decide (surroundings.run levels) id node .any
    node.children.numbered (state.note (.started id)) with ⟨decision, worked⟩
  -- One condition would have to succeed to decide.
  have undecided : decision = false := by
    have failed := decide_any_of_failures node.children.numbered (state.note (.started id)) fails
    rwa [decided] at failed
  subst undecided
  have ended : surroundings.branch (surroundings.run levels) id node false worked =
      (.failure, worked) := by
    simp only [branch, bare]
    rfl
  have ran : surroundings.run (levels + 1) id state =
      (.failure, worked.finish id node .failure) := by
    simp only [run_succ stands, execute_switch kind, decided, ended]
  have met : surroundings.arrivals (surroundings.run levels) id node (state.note (.started id)) =
      surroundings.conditions levels id node .any state := by
    simp only [arrivals, kind, decided, branchArrivals, bare, conditions, List.append_nil]
  -- Without a child for its failure the node leads to the conditions only.
  have passage : Passage (surroundings.run levels) id node (state.note (.started id))
      (surroundings.conditions levels id node .any state)
      (surroundings.decide (surroundings.run levels) id node .any node.children.numbered
        (state.note (.started id))).2 := decide_passage .any _ _
  rw [decided] at passage
  have through := passage.untouched fun condition member =>
    run_untouched levels condition.1 condition.2 (passive condition member)
  refine ⟨_, ran, ((Untouched.note _ _).trans through).trans (.finish _ _ _ _), ?_⟩
  rw [executions_succ stands, ran, met]

/-- **Tests change nothing.**  If only tests, multis and engine wrappers are executed, an
evaluation leaves the scene and the axes as they were.  In particular a switch that needs one
success and finds none among such conditions, and has no branch for failure, fails without
touching anything, and nothing but its conditions is executed below it. -/
theorem tests_change_nothing (surroundings : Surroundings σ) :
    (∀ (root : Root) (scene : Scene σ),
      surroundings.OnlyOf (fun kind => kind.isPassive = true)
          (surroundings.executionsFrom root scene) →
        let ended := surroundings.evaluateRoot root scene
        ended.2 = scene ∧ ended.1.locks = root.locks) ∧
    ∀ levels id node state, surroundings.graph.nodes[id]? = some node →
      node.kind = .switch .any → node.children.failure = none →
      let conditions := surroundings.conditions levels id node .any state
      (∀ condition ∈ conditions,
        (surroundings.run levels condition.1 condition.2).1 = .failure ∧
          surroundings.OnlyOf (fun kind => kind.isPassive = true)
            (surroundings.executions levels condition.1 condition.2)) →
        ∃ after, surroundings.run (levels + 1) id state = (.failure, after) ∧
          after.scene = state.scene ∧ after.signals.locks = state.signals.locks ∧
          surroundings.executions (levels + 1) id state =
            { id, before := state, outcome := .failure, after } ::
              conditions.flatMap fun (child, found) =>
                surroundings.executions levels child found := by
  constructor
  · intro root scene passive
    rcases surroundings.evaluateRoot_cases root scene with
      ⟨id, -, same, executions, -⟩ | ⟨fault, same, -, -⟩
    · rw [executions] at passive
      rw [same]
      have untouched := run_untouched (surroundings.maxDepth + 1) id _ passive
      refine ⟨untouched.scene, untouched.locks.trans ?_⟩
      simp [EvalState.begin, Signals.inheriting, Signals.locks, AxisLocks.union]
    · rw [same]
      exact ⟨rfl, rfl⟩
  · intro levels id node state stands kind bare conditions fail
    obtain ⟨after, ran, untouched, executed⟩ :=
      run_switch_of_failures stands kind bare levels state
        (fun condition member => (fail condition member).1)
        (fun condition member => (fail condition member).2)
    exact ⟨after, ran, untouched.scene, untouched.locks, executed⟩

end Surroundings

/-! ### An example: an inspection without findings -/

/-- An inspector who reports if the count is right, or whatever the hunch is about. -/
def inspection : Document :=
  { actors :=
      [ { name := "Inspector"
          events :=
            [ { name := "Inspect", kind := "switch"
                properties :=
                  [ textProperty "1" "Count", textProperty "2" "*hunch",
                    textProperty "SUCCESS" "Report" ] },
              { name := "Count", kind := "compare"
                properties :=
                  [ { name := "VAL1", value := .number (.whole 1) },
                    { name := "VAL2", value := .number (.whole 2) },
                    { name := "==", value := .bool true } ] },
              { name := "Search", kind := "multi", properties := [textProperty "1" "*clue"] },
              { name := "Report", kind := "erase-self" } ] } ] }

/-- The graph of the inspection: the inspection itself is number 0, the search number 2. -/
def inspectionGraph : BehaviorGraph := (BehaviorGraph.load inspection).toOption.getD {}

def inspectionDay : Surroundings Controller := rehearsal inspectionGraph 8 0.5 (.fixed false 0) []

/-- The scene of an inspector whose hunch is to search, without a clue. -/
def inspectorScene : Scene Controller :=
  { actor := { id := 1, template := "Inspector", store := .ofList [("hunch", .text "Search")] }
    map := .empty
    requests := []
    animation := .instant }

/-- The count is wrong and the search at fault.  There is no report, and the inspector stays. -/
theorem tests_change_nothing_inspection :
    let ended := inspectionDay.evaluateRoot (.node 0 { y := true }) inspectorScene
    let begun := EvalState.begin inspectorScene { y := true }
    let inspect := inspectionGraph.nodes[0]?.getD default
    let conditions := inspectionDay.conditions 8 0 inspect .any begun
    BehaviorGraph.load inspection = .ok inspectionGraph ∧
      inspectionDay.OnlyOf (fun kind => kind.isPassive = true)
        (inspectionDay.executionsFrom (.node 0 { y := true }) inspectorScene) ∧
      ended.2 = inspectorScene ∧ ended.1.locks = { y := true } ∧
      ended.1.faults = [{ node := "Search", fault := .variable (.notFound "clue") }] ∧
      conditions.map Prod.fst = [1, 2] ∧
      ∃ after, inspectionDay.run 9 0 begun = (.failure, after) ∧ after.scene = inspectorScene ∧
        inspectionDay.executions 9 0 begun =
          { id := 0, before := begun, outcome := .failure, after } ::
            conditions.flatMap fun (child, found) => inspectionDay.executions 8 child found := by
  intro ended begun inspect conditions
  obtain ⟨evaluations, switches⟩ := inspectionDay.tests_change_nothing
  have passive : inspectionDay.OnlyOf (fun kind => kind.isPassive = true)
      (inspectionDay.executionsFrom (.node 0 { y := true }) inspectorScene) := by decide
  have stands : inspectionDay.graph.nodes[0]? = some inspect := by rfl
  obtain ⟨scene, locks⟩ := evaluations (.node 0 { y := true }) inspectorScene passive
  obtain ⟨after, ran, same, -, executed⟩ :=
    switches 8 0 inspect begun stands (by rfl) (by rfl) (by decide)
  exact ⟨by rfl, passive, scene, locks, by decide, by decide, after, ran, same, executed⟩

end Stagecraft
