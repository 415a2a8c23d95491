/-
Module: Stagecraft.Proofs.FaultSources
Purpose: Where the faults of an evaluation come from, if no child is dynamic: from the work
  of its executions, or from the limit on the depth.
Main exports:
  BehaviorGraph.Static, Execution.Meets, Surroundings.Gathers, Surroundings.work_gathers,
  Surroundings.exists_meets_of_mem_faults
-/
import Stagecraft.Proofs.Endings

namespace Stagecraft

variable {σ : Type}

/-- No node of the graph has a dynamic child. -/
def BehaviorGraph.Static (graph : BehaviorGraph) : Prop :=
  ∀ (id : NodeId) (node : Node Edge), graph.nodes[id]? = some node →
    ∀ role name, (role, .variable name) ∉ node.children.toList

/-- The node of an execution comes upon a fault while it works in the state that the execution
found. -/
def Execution.Meets (surroundings : Surroundings σ) (execution : Execution σ) (node : Node Edge)
    (fault : Fault) : Prop :=
  surroundings.graph.nodes[execution.id]? = some node ∧
    ∃ levels, surroundings.work (surroundings.run levels) execution.id node
      (execution.before.note (.started execution.id)) = .error fault

namespace Surroundings

variable {surroundings : Surroundings σ} {descend : Descent σ} {id : NodeId} {node : Node Edge}

/-! ### Faults of children -/

/-- Whatever is at fault after a passage was so before it, or has become so at one of its
arrivals. -/
def Gathers (descend : Descent σ) (met : List (Arrival σ)) (before after : EvalState σ) : Prop :=
  ∀ entry ∈ after.faults, entry ∈ before.faults ∨
    ∃ arrival ∈ met, entry ∈ (descend arrival.1 arrival.2).2.faults ∧ entry ∉ arrival.2.faults

namespace Gathers

variable {before between after : EvalState σ}

/-- Where no fault is added there is none to account for. -/
theorem of_faults_eq {met : List (Arrival σ)} (same : after.faults = before.faults) :
    Gathers descend met before after :=
  fun _ member => .inl (same ▸ member)

theorem trans {met more : List (Arrival σ)} (one : Gathers descend met before between)
    (two : Gathers descend more between after) : Gathers descend (met ++ more) before after := by
  intro entry member
  rcases two entry member with earlier | ⟨arrival, later, source⟩
  · rcases one entry earlier with first | ⟨arrival, here, source⟩
    · exact .inl first
    · exact .inr ⟨arrival, List.mem_append_left _ here, source⟩
  · exact .inr ⟨arrival, List.mem_append_right _ later, source⟩

end Gathers

section Static

variable (static : ∀ role name, (role, .variable name) ∉ node.children.toList)

include static

/-- To follow a static child adds the faults of the child and no other. -/
theorem follow_gathers {role : Role} {edge : Edge} (member : (role, edge) ∈ node.children.toList)
    (state : EvalState σ) :
    Gathers descend (surroundings.arrival id node role edge state) state
      (surroundings.follow descend id node role edge state).2 := by
  cases edge with
  | «variable» name => exact absurd member (static role name)
  | node child =>
      intro entry fault
      by_cases before : entry ∈ state.faults
      · exact .inl before
      · exact .inr ⟨_, List.mem_singleton_self _, fault, before⟩

theorem branch_gathers {decision : Bool} {state after : EvalState σ} {outcome : Outcome}
    (ended : surroundings.branch descend id node decision state = (outcome, after)) :
    Gathers descend (surroundings.branchArrivals id node decision state) state after := by
  have same : (surroundings.branch descend id node decision state).2 = after := by rw [ended]
  rw [← same]
  simp only [branch, branchArrivals]
  cases decision with
  | true =>
      cases found : node.children.success with
      | none => exact .of_faults_eq rfl
      | some edge => exact follow_gathers static (Children.success_mem_toList.mpr found) state
  | false =>
      cases found : node.children.failure with
      | none => exact .of_faults_eq rfl
      | some edge => exact follow_gathers static (Children.failure_mem_toList.mpr found) state

/-- All faults of a multi come from its numbered children. -/
theorem runAll_gathers {entries : List (Int × Edge)} (numbered : entries ⊆ node.children.numbered)
    (state : EvalState σ) :
    Gathers descend (surroundings.runAllArrivals descend id node entries state) state
      (surroundings.runAll descend id node entries state) := by
  induction entries generalizing state with
  | nil => exact .of_faults_eq rfl
  | cons entry rest ih =>
      have member := Children.numbered_mem_toList.mpr (numbered List.mem_cons_self)
      simp only [runAll, runAllArrivals]
      refine (follow_gathers static member state).trans ?_
      split
      · exact .of_faults_eq rfl
      · exact ih (List.subset_of_cons_subset numbered) _

/-- So do those of a selector or a sequence. -/
theorem decide_gathers (mode : SwitchMode) {entries : List (Int × Edge)}
    (numbered : entries ⊆ node.children.numbered) (state : EvalState σ) :
    Gathers descend (surroundings.decideArrivals descend id node mode entries state) state
      (surroundings.decide descend id node mode entries state).2 := by
  induction entries generalizing state with
  | nil => exact .of_faults_eq rfl
  | cons entry rest ih =>
      have member := Children.numbered_mem_toList.mpr (numbered List.mem_cons_self)
      have first : Gathers descend _ state
          (surroundings.follow descend id node (.numbered entry.1) entry.2 state).2 :=
        follow_gathers static member state
      have later := fun after => ih (List.subset_of_cons_subset numbered) after
      rcases ended : surroundings.follow descend id node (.numbered entry.1) entry.2 state
        with ⟨outcome, after⟩
      rw [ended] at first
      simp only [decide, decideArrivals, ended]
      refine first.trans ?_
      cases mode <;> cases outcome <;> first | exact .of_faults_eq rfl | exact later after

/-- The faults of an event come from the arrival there. -/
theorem event_gathers {edge : Edge} (found : node.children.event = some edge)
    (state : EvalState σ) :
    Gathers descend (surroundings.eventArrivals id node state) state
      (surroundings.follow descend id node .event edge state).2 := by
  simp only [eventArrivals, found]
  exact follow_gathers static (Children.event_mem_toList.mpr found) state

/-- The work of a node without dynamic children adds the faults of its children and no
other. -/
theorem work_gathers {state after : EvalState σ} {outcome : Outcome}
    (worked : surroundings.work descend id node state = .ok (outcome, after)) :
    Gathers descend (surroundings.arrivals descend id node state) state after := by
  cases leads : node.kind.leads with
  | false =>
      -- A leaf that is done has added no fault.
      rcases work_leaf leads descend state with ⟨fault, failed, -⟩ | ⟨ended, done, faults, -⟩
      · exact nomatch failed.symm.trans worked
      · cases done.symm.trans worked
        exact .of_faults_eq faults
  | true =>
      unfold work at worked
      unfold arrivals
      cases kind : node.kind with
      | multi =>
          simp only [kind] at worked ⊢
          cases worked
          exact runAll_gathers static (List.Subset.refl _) state
      | engineWrapper =>
          simp only [kind] at worked ⊢
          split at worked
          · next edge found =>
              have followed : Gathers descend _ state
                  (surroundings.follow descend id node .event edge state).2 :=
                event_gathers static found state
              rw [Except.ok.inj worked] at followed
              exact followed
          · cases worked
            exact .of_faults_eq rfl
      | onGround tolerance =>
          simp only [kind] at worked ⊢
          obtain ⟨value, known, worked⟩ := exists_of_bind_eq_ok worked
          simp only [known]
          exact branch_gathers static (Except.ok.inj worked)
      | switch mode =>
          simp only [kind] at worked ⊢
          -- The conditions come first, and the branch goes on from where they end.
          have decided : Gathers descend _ state
              (surroundings.decide descend id node mode node.children.numbered state).2 :=
            decide_gathers static mode (List.Subset.refl _) state
          exact decided.trans (branch_gathers static (Except.ok.inj worked))
      | singleGuard =>
          simp only [kind] at worked ⊢
          split at worked
          · cases worked
            exact .of_faults_eq rfl
          · next fresh =>
              cases worked
              rw [if_neg fresh]
              simp only [runGuarded]
              split
              · next edge found => exact event_gathers static found _
              · exact .of_faults_eq rfl
      | collision mine other otherName =>
          simp only [kind] at worked ⊢
          exact branch_gathers static (Except.ok.inj worked)
      | mouseButton query =>
          simp only [kind] at worked ⊢
          exact branch_gathers static (Except.ok.inj worked)
      | compare left right relations =>
          simp only [kind] at worked ⊢
          obtain ⟨first, knownFirst, worked⟩ := exists_of_bind_eq_ok worked
          obtain ⟨second, knownSecond, worked⟩ := exists_of_bind_eq_ok worked
          obtain ⟨decision, compared, worked⟩ := exists_of_bind_eq_ok worked
          simp only [knownFirst, knownSecond, compared, bind, Except.bind]
          exact branch_gathers static (Except.ok.inj worked)
      | _ => simp [kind, NodeKind.leads] at leads

end Static

/-! ### Faults of executions -/

/-- Where no child is dynamic, whatever is at fault after a run was so before it, or lies too
deep, or was met by an execution of a node of that name. -/
theorem exists_meets_of_mem_faults (static : surroundings.graph.Static) (levels : Nat)
    (id : NodeId) (state : EvalState σ) {entry : NodeFault}
    (member : entry ∈ (surroundings.run levels id state).2.faults) :
    entry ∈ state.faults ∨ entry.fault = .depthExceeded surroundings.maxDepth ∨
      ∃ execution ∈ surroundings.executions levels id state, ∃ node,
        execution.Meets surroundings node entry.fault ∧ node.name = entry.node := by
  -- A fault is new, or one of the node itself, or it has come from a child one level below.
  induction levels generalizing id state with
  | zero =>
      simp only [run] at member
      split at member
      · next node stands =>
          rcases List.mem_append.mp member with before | last
          · exact .inl before
          · rw [List.mem_singleton.mp last]
            exact .inr (.inl rfl)
      · exact .inl member
  | succ levels ih =>
      cases stands : surroundings.graph.nodes[id]? with
      | none =>
          simp only [run, stands] at member
          exact .inl member
      | some node =>
          rw [run_succ stands, execute_eq] at member
          rw [executions_succ stands]
          cases ended : surroundings.work (surroundings.run levels) id node
              (state.note (.started id)) with
          | error fault =>
              rw [ended, conclude_error, EvalState.finish_faults] at member
              rcases List.mem_append.mp member with before | last
              · exact .inl before
              · rw [List.mem_singleton.mp last]
                exact .inr (.inr ⟨_, List.mem_cons_self, node, ⟨stands, levels, ended⟩, rfl⟩)
          | ok ending =>
              rw [ended, conclude_ok, EvalState.finish_faults] at member
              rcases work_gathers (static id node stands) ended entry member with
                before | ⟨⟨child, found⟩, met, below, fresh⟩
              · exact .inl before
              · rcases ih child found below with before | deep | ⟨execution, inside, source⟩
                · exact absurd before fresh
                · exact .inr (.inl deep)
                · exact .inr (.inr ⟨execution, List.mem_cons_of_mem _
                    (List.mem_flatMap.mpr ⟨_, met, inside⟩), source⟩)

end Surroundings

end Stagecraft
