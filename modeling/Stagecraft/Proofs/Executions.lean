/-
Module: Stagecraft.Proofs.Executions
Purpose: The executions that an evaluation consists of, one after another as they
  begin, each with the state that it finds and the one that it leaves.
Main exports:
  Surroundings.arrivals, Execution, Surroundings.executions, Surroundings.Course,
  Surroundings.Passage, work_passage, work_course, execute_course, beginnings_run
-/
import Stagecraft.Proofs.Activity

namespace Stagecraft

variable {σ : Type}

/-!
The journal tells which nodes were executed, but not in which states.  The states can
be computed along with the evaluation: a node finds what its elder siblings left
behind.  That the executions found in this way are those of the evaluation shows in
the journal, which has an entry for the beginning of each of them and of no other.
-/

/-- The kinds that evaluate children. -/
def NodeKind.leads : NodeKind → Bool
  | .multi | .engineWrapper | .onGround .. | .switch .. | .singleGuard | .collision ..
  | .mouseButton .. | .compare .. => true
  | _ => false

/-- A node about to be evaluated, and the state that it finds. -/
abbrev Arrival (σ : Type) := NodeId × EvalState σ

namespace Surroundings

variable (surroundings : Surroundings σ)

section Arrivals

variable (descend : Descent σ) (id : NodeId) (node : Node Edge)

/-- The arrival at the child of an edge, if the edge leads to a node. -/
def arrival (role : Role) (edge : Edge) (state : EvalState σ) : List (Arrival σ) :=
  let state := state.note (.followed id role)
  match surroundings.target node role state.scene edge with
  | .ok child => [(child, state)]
  | .error _ => []

/-- The arrival at the child for a decision. -/
def branchArrivals (decision : Bool) (state : EvalState σ) : List (Arrival σ) :=
  match decision, node.children.success, node.children.failure with
  | true, some edge, _ => surroundings.arrival id node .success edge state
  | false, _, some edge => surroundings.arrival id node .failure edge state
  | _, _, _ => []

/-- The arrivals at numbered children until STOP is raised. -/
def runAllArrivals : List (Int × Edge) → EvalState σ → List (Arrival σ)
  | [], _ => []
  | (key, edge) :: rest, state =>
      let (_, after) := surroundings.follow descend id node (.numbered key) edge state
      surroundings.arrival id node (.numbered key) edge state ++
        if after.signals.stopped then [] else runAllArrivals rest after

/-- The arrivals at numbered children until one of them decides. -/
def decideArrivals (mode : SwitchMode) : List (Int × Edge) → EvalState σ → List (Arrival σ)
  | [], _ => []
  | (key, edge) :: rest, state =>
      surroundings.arrival id node (.numbered key) edge state ++
        match mode, surroundings.follow descend id node (.numbered key) edge state with
        | .any, (.success, _) => []
        | .all, (.failure, _) => []
        | _, (_, after) => decideArrivals mode rest after

/-- The arrival at the event of a node. -/
def eventArrivals (state : EvalState σ) : List (Arrival σ) :=
  match node.children.event with
  | some edge => surroundings.arrival id node .event edge state
  | none => []

/-- The arrivals at the children of a node during its work, in order. -/
def arrivals (state : EvalState σ) : List (Arrival σ) :=
  let scene := state.scene
  match node.kind with
  | .multi => surroundings.runAllArrivals descend id node node.children.numbered state
  | .engineWrapper => surroundings.eventArrivals id node state
  | .onGround tolerance =>
      match scene.read tolerance with
      | .ok tolerance =>
          surroundings.branchArrivals id node (surroundings.groundDistance scene ≤ tolerance) state
      | .error _ => []
  | .switch mode =>
      let (decision, after) :=
        surroundings.decide descend id node mode node.children.numbered state
      surroundings.decideArrivals descend id node mode node.children.numbered state ++
        surroundings.branchArrivals id node decision after
  | .singleGuard =>
      let actor := scene.actor
      if id ∈ actor.guards then []
      else
        surroundings.eventArrivals id node
          (state.withActor { actor with guards := actor.guards ++ [id] })
  | .collision mine other otherName =>
      let hit := surroundings.overlaps scene.actor.id mine other otherName
      surroundings.branchArrivals id node hit state
  | .mouseButton query =>
      let button := surroundings.button query.button
      let hit :=
        query.pressed && button.pressed || query.released && button.released ||
          query.down && button.down
      surroundings.branchArrivals id node hit state
  | .compare left right relations =>
      match (do Value.compare relations (← scene.read left) (← scene.read right)) with
      | .ok decision => surroundings.branchArrivals id node decision state
      | .error _ => []
  | _ => []

end Arrivals

end Surroundings

/-- One execution of a node: the state that it found, and how it ended. -/
structure Execution (σ : Type) where
  id : NodeId
  before : EvalState σ
  outcome : Outcome
  after : EvalState σ

namespace Surroundings

variable (surroundings : Surroundings σ)

/-- The executions of the evaluation of a node in the order in which they begin: its
own one, and then those below it.  Where no level is left nothing is executed. -/
def executions : Nat → NodeId → EvalState σ → List (Execution σ)
  | 0, _, _ => []
  | levels + 1, id, state =>
      match surroundings.graph.nodes[id]? with
      | none => []
      | some node =>
          let (outcome, after) := surroundings.run (levels + 1) id state
          let below := surroundings.arrivals (surroundings.run levels) id node
            (state.note (.started id))
          { id, before := state, outcome, after } ::
            below.flatMap fun (child, found) => executions levels child found

variable {surroundings} in
/-- Every execution is one of a node of the graph. -/
theorem exists_of_mem_executions {levels : Nat} {id : NodeId} {state : EvalState σ}
    {execution : Execution σ} (member : execution ∈ surroundings.executions levels id state) :
    ∃ node below, surroundings.graph.nodes[execution.id]? = some node ∧
      surroundings.execute (surroundings.run below) execution.id node execution.before =
        (execution.outcome, execution.after) := by
  induction levels generalizing id state with
  | zero => cases member
  | succ levels ih =>
      simp only [executions] at member
      split at member
      · cases member
      · next node stands =>
          rcases List.mem_cons.mp member with rfl | later
          · exact ⟨node, levels, stands, by simp [run, stands]⟩
          · obtain ⟨⟨child, found⟩, -, inside⟩ := List.mem_flatMap.mp later
            exact ih inside

/-! ### The course of the work of a node -/

/-- A course of activities of a node with the arrivals at its children on the way. -/
inductive Course (descend : Descent σ) (id : NodeId) (node : Node Edge) (before : EvalState σ) :
    List (Arrival σ) → EvalState σ → Prop where
  | start : Course descend id node before [] before
  | change {met : List (Arrival σ)} {state after : EvalState σ}
      (course : Course descend id node before met state)
      (change : surroundings.Change id node state after) : Course descend id node before met after
  | look {met : List (Arrival σ)} {state : EvalState σ}
      (course : Course descend id node before met state) (role : Role) :
      Course descend id node before met (state.note (.followed id role))
  | fail {met : List (Arrival σ)} {state : EvalState σ}
      (course : Course descend id node before met state) (fault : Fault) :
      Course descend id node before met (state.fail node fault)
  | enter {met : List (Arrival σ)} {state : EvalState σ}
      (course : Course descend id node before met state) (child : NodeId) :
      Course descend id node before (met ++ [(child, state)]) (descend child state).2

/-- A passage of a node that only leads on: it looks at children, descends to them, or is at
fault about one that leads nowhere.  By itself it changes nothing. -/
inductive Passage (descend : Descent σ) (id : NodeId) (node : Node Edge) (before : EvalState σ) :
    List (Arrival σ) → EvalState σ → Prop where
  | start : Passage descend id node before [] before
  | look {met : List (Arrival σ)} {state : EvalState σ}
      (passage : Passage descend id node before met state) (role : Role) :
      Passage descend id node before met (state.note (.followed id role))
  | fail {met : List (Arrival σ)} {state : EvalState σ}
      (passage : Passage descend id node before met state) (fault : Fault) :
      Passage descend id node before met (state.fail node fault)
  | enter {met : List (Arrival σ)} {state : EvalState σ}
      (passage : Passage descend id node before met state) (child : NodeId) :
      Passage descend id node before (met ++ [(child, state)]) (descend child state).2

variable {surroundings} {descend : Descent σ} {id : NodeId} {node : Node Edge}
  {before between after : EvalState σ}

theorem Passage.trans {met more : List (Arrival σ)}
    (first : Passage descend id node before met between)
    (second : Passage descend id node between more after) :
    Passage descend id node before (met ++ more) after := by
  induction second with
  | start => simpa using first
  | look _ role ih => exact ih.look role
  | fail _ fault ih => exact ih.fail fault
  | enter _ child ih =>
      rw [← List.append_assoc]
      exact ih.enter child

/-- A passage is a course without changes. -/
theorem Passage.course {met : List (Arrival σ)}
    (passage : Passage descend id node before met after) :
    surroundings.Course descend id node before met after := by
  induction passage with
  | start => exact .start
  | look _ role ih => exact ih.look role
  | fail _ fault ih => exact ih.fail fault
  | enter _ child ih => exact ih.enter child

theorem Course.trans {met more : List (Arrival σ)}
    (first : surroundings.Course descend id node before met between)
    (second : surroundings.Course descend id node between more after) :
    surroundings.Course descend id node before (met ++ more) after := by
  induction second with
  | start => simpa using first
  | change _ change ih => exact ih.change change
  | look _ role ih => exact ih.look role
  | fail _ fault ih => exact ih.fail fault
  | enter _ child ih =>
      rw [← List.append_assoc]
      exact ih.enter child

/-- A change does not depend on the children of its node. -/
theorem Change.of_childless
    (change : surroundings.Change id { node with children := {} } before after) :
    surroundings.Change id node before after := by
  cases change with
  | propel axis f free => exact .propel axis f free
  | measure => exact .measure
  | land kind grounded => exact .land kind grounded
  | move position => exact .move position
  | turn rotation => exact .turn rotation
  | leave => exact .leave
  | pose kind direction frame => exact .pose kind direction frame
  | pass kind fresh => exact .pass kind fresh
  | assign kind changed => exact .assign kind changed
  | animate kind direction frames => exact .animate kind direction frames
  | complete => exact .complete
  | stop signal => exact .stop signal
  | issue asks => exact .issue asks

/-- Without children a node meets nobody. -/
theorem course_of_childless
    (active : surroundings.Activities descend id { node with children := {} } before after) :
    surroundings.Course descend id node before [] after := by
  induction active with
  | refl => exact .start
  | tail _ activity ih =>
      cases activity with
      | change change => exact ih.change change.of_childless
      | look role => exact ih.look role
      | enter member _ _ => cases member
      | fail fault => exact ih.fail fault

/-- A child that is followed is a passage through at most one arrival. -/
theorem follow_passage (role : Role) (edge : Edge) (state : EvalState σ) :
    Passage descend id node state (surroundings.arrival id node role edge state)
      (surroundings.follow descend id node role edge state).2 := by
  simp only [follow, arrival]
  have looked : Passage descend id node state [] (state.note (.followed id role)) :=
    .look .start role
  cases surroundings.target node role (state.note (.followed id role)).scene edge with
  | ok child => exact looked.enter child
  | error fault => exact looked.fail fault

theorem branch_passage {decision : Bool} {state : EvalState σ} {outcome : Outcome}
    (ended : surroundings.branch descend id node decision state = (outcome, after)) :
    Passage descend id node state
      (surroundings.branchArrivals id node decision state) after := by
  have same : (surroundings.branch descend id node decision state).2 = after := by rw [ended]
  rw [← same]
  simp only [branch, branchArrivals]
  cases decision with
  | true =>
      cases found : node.children.success with
      | none => exact .start
      | some edge => exact follow_passage .success edge state
  | false =>
      cases found : node.children.failure with
      | none => exact .start
      | some edge => exact follow_passage .failure edge state

theorem runAll_passage (entries : List (Int × Edge)) (state : EvalState σ) :
    Passage descend id node state
      (surroundings.runAllArrivals descend id node entries state)
      (surroundings.runAll descend id node entries state) := by
  induction entries generalizing state with
  | nil => exact .start
  | cons entry rest ih =>
      rcases entry with ⟨key, edge⟩
      simp only [runAll, runAllArrivals]
      refine (follow_passage (.numbered key) edge state).trans ?_
      split
      · exact .start
      · exact ih _

/-- A selector or a sequence is a passage through the children it comes to. -/
theorem decide_passage (mode : SwitchMode) (entries : List (Int × Edge)) (state : EvalState σ) :
    Passage descend id node state
      (surroundings.decideArrivals descend id node mode entries state)
      (surroundings.decide descend id node mode entries state).2 := by
  induction entries generalizing state with
  | nil => exact .start
  | cons entry rest ih =>
      rcases entry with ⟨key, edge⟩
      have first : Passage descend id node state _
          (surroundings.follow descend id node (.numbered key) edge state).2 :=
        follow_passage (.numbered key) edge state
      rcases ended : surroundings.follow descend id node (.numbered key) edge state
        with ⟨outcome, after⟩
      rw [ended] at first
      simp only [decide, decideArrivals, ended]
      refine first.trans ?_
      cases mode <;> cases outcome <;> first | exact .start | exact ih after

theorem event_passage (edge : Edge) (found : node.children.event = some edge)
    (state : EvalState σ) :
    Passage descend id node state (surroundings.eventArrivals id node state)
      (surroundings.follow descend id node .event edge state).2 := by
  simp only [eventArrivals, found]
  exact follow_passage _ _ state

theorem runGuarded_passage (state : EvalState σ) :
    Passage descend id node state (surroundings.eventArrivals id node state)
      (surroundings.runGuarded descend id node state) := by
  simp only [runGuarded]
  split
  · next edge found => exact event_passage edge found state
  · next childless =>
      simp only [eventArrivals, childless]
      exact .start

/-- The work of a node of any other kind does not depend on children. -/
theorem work_of_not_leads (leaf : node.kind.leads = false) (state : EvalState σ) :
    surroundings.work descend id node state =
      surroundings.work descend id { node with children := {} } state := by
  simp only [work]
  cases kind : node.kind <;> first | rfl | simp [kind, NodeKind.leads] at leaf

/-- A node whose kind leads nowhere arrives nowhere. -/
theorem arrivals_of_not_leads (leaf : node.kind.leads = false) (state : EvalState σ) :
    surroundings.arrivals descend id node state = [] := by
  simp only [arrivals]
  cases kind : node.kind <;> first | rfl | simp [kind, NodeKind.leads] at leaf

/-- The work of a node that leads on and is no guard is a passage with all its arrivals. -/
theorem work_passage (leads : node.kind.leads = true) (plain : node.kind ≠ .singleGuard)
    {state : EvalState σ} {outcome : Outcome}
    (worked : surroundings.work descend id node state = .ok (outcome, after)) :
    Passage descend id node state (surroundings.arrivals descend id node state) after := by
  unfold work at worked
  unfold arrivals
  cases kind : node.kind with
  | multi =>
      simp only [kind] at worked ⊢
      cases worked
      exact runAll_passage _ state
  | engineWrapper =>
      simp only [kind] at worked ⊢
      split at worked
      · next edge found =>
          have followed : Passage descend id node state _
              (surroundings.follow descend id node .event edge state).2 :=
            event_passage edge found state
          rw [Except.ok.inj worked] at followed
          exact followed
      · next childless =>
          cases worked
          simp only [eventArrivals, childless]
          exact .start
  | onGround tolerance =>
      simp only [kind] at worked ⊢
      obtain ⟨value, known, worked⟩ := exists_of_bind_eq_ok worked
      simp only [known]
      exact branch_passage (Except.ok.inj worked)
  | switch mode =>
      simp only [kind] at worked ⊢
      have decided : Passage descend id node state _
          (surroundings.decide descend id node mode node.children.numbered state).2 :=
        decide_passage mode node.children.numbered state
      exact decided.trans (branch_passage (Except.ok.inj worked))
  -- A guard changes the actor before it leads on.
  | singleGuard => exact absurd kind plain
  | collision mine other otherName =>
      simp only [kind] at worked ⊢
      exact branch_passage (Except.ok.inj worked)
  | mouseButton query =>
      simp only [kind] at worked ⊢
      exact branch_passage (Except.ok.inj worked)
  | compare left right relations =>
      simp only [kind] at worked ⊢
      obtain ⟨first, knownFirst, worked⟩ := exists_of_bind_eq_ok worked
      obtain ⟨second, knownSecond, worked⟩ := exists_of_bind_eq_ok worked
      obtain ⟨decision, compared, worked⟩ := exists_of_bind_eq_ok worked
      simp only [knownFirst, knownSecond, compared, bind, Except.bind]
      exact branch_passage (Except.ok.inj worked)
  | _ => simp [kind, NodeKind.leads] at leads

/-- The work of a guard is a passage with all its arrivals, after the guard has let the actor
pass or not. -/
theorem work_passage_guard (kind : node.kind = .singleGuard) {state : EvalState σ}
    {outcome : Outcome}
    (worked : surroundings.work descend id node state = .ok (outcome, after)) :
    ∃ entered, Passage descend id node entered
        (surroundings.arrivals descend id node state) after ∧
      (entered = state ∨ id ∉ state.scene.actor.guards ∧
        entered = state.withActor
          { state.scene.actor with guards := state.scene.actor.guards ++ [id] }) := by
  unfold work at worked
  unfold arrivals
  simp only [kind] at worked ⊢
  split at worked
  · next passed =>
      cases worked
      rw [if_pos passed]
      exact ⟨_, .start, .inl rfl⟩
  · next fresh =>
      cases worked
      rw [if_neg fresh]
      exact ⟨_, runGuarded_passage _, .inr ⟨fresh, rfl⟩⟩

/-- The work of a node that comes to an end is a course with all its arrivals. -/
theorem work_course {state : EvalState σ} {outcome : Outcome}
    (worked : surroundings.work descend id node state = .ok (outcome, after)) :
    surroundings.Course descend id node state (surroundings.arrivals descend id node state)
      after := by
  cases leads : node.kind.leads with
  | false =>
      rw [arrivals_of_not_leads leads]
      rw [work_of_not_leads leads] at worked
      exact course_of_childless (work_activities worked)
  | true =>
      by_cases guard : node.kind = .singleGuard
      · obtain ⟨entered, passage, same | ⟨fresh, passed⟩⟩ := work_passage_guard guard worked
        · subst same
          exact passage.course
        · subst passed
          exact (Course.start.change (.pass guard fresh)).trans passage.course
      · exact (work_passage leads guard worked).course

/-- A node whose work ends with a fault has not come to any child. -/
theorem arrivals_of_error {state : EvalState σ} {fault : Fault}
    (failed : surroundings.work descend id node state = .error fault) :
    surroundings.arrivals descend id node state = [] := by
  cases leaf : node.kind.leads with
  | false => exact arrivals_of_not_leads leaf state
  | true =>
      unfold work at failed
      unfold arrivals
      cases kind : node.kind with
      | multi | switch | collision | mouseButton =>
          simp only [kind] at failed
          cases failed
      | engineWrapper | singleGuard =>
          simp only [kind] at failed
          split at failed <;> cases failed
      | onGround tolerance =>
          simp only [kind] at failed ⊢
          cases known : state.scene.read tolerance with
          | error _ => rfl
          | ok value =>
              rw [known] at failed
              cases failed
      | compare left right relations =>
          simp only [kind] at failed ⊢
          cases first : state.scene.read left with
          | error _ => rfl
          | ok left =>
              cases second : state.scene.read right with
              | error _ => rfl
              | ok right =>
                  cases compared : Value.compare relations left right with
                  | error _ => simp only [bind, Except.bind, compared]
                  | ok decision =>
                      simp only [first, second, compared, bind, Except.bind] at failed
                      cases failed
      | _ => simp [kind, NodeKind.leads] at leaf

/-- The execution of a node is a course with all its arrivals, between the entries for
its beginning and for its end. -/
theorem execute_course (surroundings : Surroundings σ) (descend : Descent σ) (id : NodeId)
    (node : Node Edge) (state : EvalState σ) :
    ∃ outcome worked,
      surroundings.Course descend id node (state.note (.started id))
        (surroundings.arrivals descend id node (state.note (.started id))) worked ∧
      surroundings.execute descend id node state =
        (outcome, worked.note (.finished id outcome)) := by
  rw [execute_eq]
  cases ended : surroundings.work descend id node (state.note (.started id)) with
  | error fault =>
      rw [arrivals_of_error ended]
      exact ⟨.failure, _, .fail .start fault, rfl⟩
  | ok ending =>
      rcases ending with ⟨outcome, after⟩
      have worked := work_course ended
      cases outcome with
      | failure => exact ⟨.failure, after, worked, rfl⟩
      | success =>
          by_cases raises : node.signal = some .stop ∧ ¬ node.kind.defersSignal
          · refine ⟨.success, after.stop, worked.change (.stop raises.1), ?_⟩
            simp only [conclude, if_pos raises]
          · refine ⟨.success, after, worked, ?_⟩
            simp only [conclude, if_neg raises]

end Surroundings

/-! ### The executions of the journal -/

/-- The nodes that have begun, the latest entry of the journal first. -/
def JournalEntry.begun? : JournalEntry → Option NodeId
  | .started id => some id
  | _ => none

/-- The nodes that were executed, in the order in which they began. -/
def beginnings (journal : List JournalEntry) : List NodeId :=
  journal.reverse.filterMap JournalEntry.begun?

/-- The journal has its latest entry in front, and that begins last. -/
theorem beginnings_cons (entry : JournalEntry) (journal : List JournalEntry) :
    beginnings (entry :: journal) = beginnings journal ++ entry.begun?.toList := by
  simp only [beginnings, List.reverse_cons, List.filterMap_append]
  cases entry <;> rfl

namespace Surroundings

variable {surroundings : Surroundings σ} {id : NodeId} {node : Node Edge}

/-- A change of the scene begins nothing. -/
theorem Change.beginnings_eq {before after : EvalState σ}
    (change : surroundings.Change id node before after) :
    beginnings after.journal = beginnings before.journal := by
  cases change with
  | measure | complete => simp [EvalState.note, beginnings_cons, JournalEntry.begun?]
  | land kind grounded =>
      simp only [EvalState.land]
      split <;>
        simp [EvalState.note, EvalState.setVelocity, EvalState.withActor, EvalState.withScene,
          beginnings_cons, JournalEntry.begun?]
  | propel | move | turn | leave | pose | pass | assign | animate | stop | issue => rfl

/-- **The executions of an evaluation are those of its journal**: they are as many, of
the same nodes, and in the same order. -/
theorem beginnings_run (levels : Nat) (id : NodeId) (state : EvalState σ) :
    beginnings (surroundings.run levels id state).2.journal =
      beginnings state.journal ++ (surroundings.executions levels id state).map Execution.id := by
  induction levels generalizing id state with
  | zero =>
      simp only [run, executions]
      split <;> simp [EvalState.note, EvalState.fail, beginnings_cons, JournalEntry.begun?]
  | succ levels ih =>
      simp only [executions]
      cases stands : surroundings.graph.nodes[id]? with
      | none => simp [run, stands, EvalState.note, beginnings_cons, JournalEntry.begun?]
      | some node =>
          -- The executions begin as the course enters them; all else that it does begins
          -- nothing.
          have along : ∀ {met : List (Arrival σ)} {before after : EvalState σ},
              surroundings.Course (surroundings.run levels) id node before met after →
              beginnings after.journal = beginnings before.journal ++
                (met.flatMap fun (child, found) =>
                  surroundings.executions levels child found).map Execution.id := by
            intro met before after course
            induction course with
            | start => simp
            | change _ change ih => rw [change.beginnings_eq, ih]
            | look _ role ih =>
                simpa [EvalState.note, beginnings_cons, JournalEntry.begun?] using ih
            | fail _ fault ih => exact ih
            | enter _ child before =>
                rw [ih, before]
                simp
          obtain ⟨outcome, worked, course, ended⟩ :=
            execute_course surroundings (surroundings.run levels) id node state
          simp only [run, stands, ended]
          simp [EvalState.note, beginnings_cons, JournalEntry.begun?, along course]

end Surroundings

end Stagecraft
