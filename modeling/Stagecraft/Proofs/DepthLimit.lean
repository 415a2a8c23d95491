/-
Module: Stagecraft.Proofs.DepthLimit
Purpose: Where no child is dynamic the limit on the depth is never exceeded, provided
  that there is a level for every node; and where it is not exceeded, it does not matter.
Main exports:
  WithinDepth, BehaviorGraph.StaticBelow, static_graph_stays_within_depth,
  Surroundings.limitedTo, depth_limit_does_not_matter
-/
import Stagecraft.Proofs.OneShot
import Stagecraft.Proofs.Walk

namespace Stagecraft

open Relation (ReflTransGen TransGen)

variable {σ : Type}

/-- None of the faults is that the limit on the depth is exceeded. -/
def WithinDepth (faults : List NodeFault) : Prop := ∀ entry ∈ faults, entry.fault.IsOwn

theorem WithinDepth.fail {state : EvalState σ} (within : WithinDepth state.faults)
    (node : Node Edge) {fault : Fault} (own : fault.IsOwn) :
    WithinDepth (state.fail node fault).faults := by
  intro entry member
  rcases List.mem_append.mp member with before | last
  · exact within entry before
  · rw [List.mem_singleton.mp last]
    exact own

namespace Surroundings

/-- The same surroundings with another limit on the depth. -/
def limitedTo (surroundings : Surroundings σ) (limit : Nat) : Surroundings σ :=
  { surroundings with maxDepth := limit }

variable {surroundings : Surroundings σ} {descend : Descent σ} {id : NodeId} {node : Node Edge}
  {before after : EvalState σ}

/-- A change is not a fault. -/
theorem Change.faults_eq (change : surroundings.Change id node before after) :
    after.faults = before.faults := by
  cases change with
  | land kind grounded =>
      simp only [EvalState.land]
      split <;> rfl
  | propel | measure | move | turn | leave | pose | pass | assign | animate | complete | stop
  | issue => rfl

end Surroundings

/-!
The nodes that have begun and not ended lie on one path of static edges.  As these
form no cycle, no node is on the path twice, and so the path is no longer than there
are nodes.
-/

/-! ### Static children -/

namespace BehaviorGraph

/-- No node to which static edges lead from the root has a dynamic child. -/
def StaticBelow (graph : BehaviorGraph) (root : NodeId) : Prop :=
  ∀ (id : NodeId) (node : Node Edge), ReflTransGen graph.Leads root id →
    graph.nodes[id]? = some node → ∀ role name, (role, .variable name) ∉ node.children.toList

/-- A node to which static edges lead from the root, with the nodes above it on the way,
the nearest one first. -/
inductive Lineage (graph : BehaviorGraph) (root : NodeId) : NodeId → List NodeId → Prop where
  | root : Lineage graph root root []
  | child {id child : NodeId} {above : List NodeId} (lineage : Lineage graph root id above)
      (leads : graph.Leads id child) : Lineage graph root child (id :: above)

namespace Lineage

variable {graph : BehaviorGraph} {root id : NodeId} {above : List NodeId}

theorem reached (lineage : graph.Lineage root id above) : ReflTransGen graph.Leads root id := by
  induction lineage with
  | root => exact .refl
  | child _ leads ih => exact ih.tail leads

/-- Every node of the lineage leads to the last one. -/
theorem leads_of_mem (lineage : graph.Lineage root id above) {upper : NodeId}
    (member : upper ∈ above) : TransGen graph.Leads upper id := by
  induction lineage with
  | root => cases member
  | child _ leads ih =>
      rcases List.mem_cons.mp member with rfl | higher
      · exact .single leads
      · exact (ih higher).tail leads

/-- Without cycles no node is above itself. -/
theorem nodup (acyclic : ∀ id, ¬ TransGen graph.Leads id id)
    (lineage : graph.Lineage root id above) : (id :: above).Nodup := by
  have here := lineage
  induction lineage with
  | root => exact List.nodup_singleton root
  | @child _ below _ parent _ ih =>
      refine List.nodup_cons.mpr ⟨?_, ih parent⟩
      intro member
      exact acyclic below (here.leads_of_mem member)

/-- The nodes of a lineage are nodes of the graph. -/
theorem lt_length_of_mem (lineage : graph.Lineage root id above) {upper : NodeId}
    (member : upper ∈ above) : upper < graph.nodes.length := by
  induction lineage with
  | root => cases member
  | child _ leads ih =>
      rcases List.mem_cons.mp member with rfl | higher
      · obtain ⟨node, -, stands, -⟩ := leads
        exact (List.getElem?_eq_some_iff.mp stands).1
      · exact ih higher

/-- There are more nodes in the graph than above any one of them. -/
theorem length_lt (acyclic : ∀ id, ¬ TransGen graph.Leads id id)
    (lineage : graph.Lineage root id above) {node : Node Edge}
    (stands : graph.nodes[id]? = some node) : above.length < graph.nodes.length := by
  refine length_le_of_nodup (lineage.nodup acyclic) ?_
  intro other member
  rcases List.mem_cons.mp member with rfl | higher
  · exact (List.getElem?_eq_some_iff.mp stands).1
  · exact lineage.lt_length_of_mem higher

end Lineage

end BehaviorGraph

namespace Surroundings

variable {surroundings : Surroundings σ} {descend : Descent σ} {id : NodeId} {node : Node Edge}
  {before after : EvalState σ}

/-- A node without dynamic children stays within the depth if its children do. -/
theorem activities_withinDepth
    (static : ∀ role name, (role, .variable name) ∉ node.children.toList)
    (children : ∀ role child, (role, .node child) ∈ node.children.toList →
      ∀ state : EvalState σ, WithinDepth state.faults →
        WithinDepth (descend child state).2.faults)
    (active : surroundings.Activities descend id node before after)
    (within : WithinDepth before.faults) : WithinDepth after.faults := by
  induction active with
  | refl => exact within
  | tail _ activity ih =>
      cases activity with
      | change change =>
          rw [change.faults_eq]
          exact ih
      | look role => exact ih
      | @enter role edge child member wraps leads =>
          cases edge with
          | node other =>
              cases leads
              exact children role _ member _ ih
          | «variable» name => exact absurd member (static role name)
      | fail fault own => exact ih.fail node own

/-- A run stays within the depth: as many levels are left as nodes may still be below. -/
theorem run_withinDepth (acyclic : ∀ id, ¬ TransGen surroundings.graph.Leads id id)
    {root : NodeId} (static : surroundings.graph.StaticBelow root)
    (deep : surroundings.graph.nodes.length - 1 ≤ surroundings.maxDepth) (levels : Nat)
    {above : List NodeId} (lineage : surroundings.graph.Lineage root id above)
    (depth : above.length + levels = surroundings.maxDepth + 1) {state : EvalState σ}
    (within : WithinDepth state.faults) :
    WithinDepth (surroundings.run levels id state).2.faults := by
  induction levels generalizing id above state with
  | zero =>
      cases stands : surroundings.graph.nodes[id]? with
      | none =>
          simp only [run, stands]
          exact within
      | some node =>
          -- Where no level is left the lineage is longer than a graph without cycles allows.
          have bound := lineage.length_lt acyclic stands
          omega
  | succ levels ih =>
      cases stands : surroundings.graph.nodes[id]? with
      | none =>
          simp only [run, stands]
          exact within
      | some node =>
          obtain ⟨outcome, worked, active, ended⟩ :=
            execute_activities surroundings (surroundings.run levels) id node state
          have stays : WithinDepth worked.faults := by
            apply activities_withinDepth (static id node lineage.reached stands) _ active within
            intro role child member state within
            apply ih (lineage.child ⟨node, role, stands, member⟩) _ within
            simp only [List.length_cons]
            omega
          simp only [run, stands, ended]
          exact stays

end Surroundings

/-- **The limit on the depth concerns dynamic children and long chains only.**  An
evaluation on a loaded graph that meets no dynamic child reports no fault that the limit
is exceeded, if the limit admits a chain of all nodes. -/
theorem static_graph_stays_within_depth {document : Document} {graph : BehaviorGraph}
    (loaded : BehaviorGraph.load document = .ok graph) {surroundings : Surroundings σ}
    (shared : surroundings.graph = graph) {root : NodeId} (static : graph.StaticBelow root)
    (deep : graph.nodes.length - 1 ≤ surroundings.maxDepth) (locks : AxisLocks)
    (scene : Scene σ) :
    WithinDepth (surroundings.evaluateNode root locks scene).1.faults := by
  subst shared
  have begun : WithinDepth (EvalState.begin scene locks).faults := by
    intro entry member
    cases member
  exact Surroundings.run_withinDepth (BehaviorGraph.load_linked loaded).acyclic static deep
    (surroundings.maxDepth + 1) .root (Nat.zero_add _) begun

/-! ### An example: three in a row -/

/-- A caravan with a camel that walks: three nodes, one below the other. -/
def caravan : Document :=
  { mapEvents :=
      [ { name := "Caravan", kind := "multi", properties := [textProperty "1" "Camel"] },
        { name := "Camel", kind := "multi", properties := [textProperty "1" "Walk"] },
        { name := "Walk", kind := "move" } ] }

/-- The graph of the caravan: its nodes are numbered from the front. -/
def caravanGraph : BehaviorGraph := (BehaviorGraph.load caravan).toOption.getD {}

/-- A journey with just as many levels as it takes. -/
def caravanJourney : Surroundings Controller :=
  rehearsal caravanGraph 2 0.5 (.fixed false 0) []

theorem caravanGraph_staticBelow : caravanGraph.StaticBelow 0 := by
  intro id node _ stands role name
  have links : caravanGraph.nodes.map (·.children.toList) =
      [[(.numbered 1, .node 1)], [(.numbered 1, .node 2)], []] := by rfl
  have known := List.mem_map_of_mem (f := (·.children.toList)) (List.mem_of_getElem? stands)
  simp only [links, List.mem_cons, List.not_mem_nil, or_false] at known
  rcases known with same | same | same <;> simp [same]

/-- The caravan arrives, which one level less would not allow. -/
theorem static_graph_stays_within_depth_caravan :
    let evaluation := (caravanJourney.evaluateNode 0 {} acrobatScene).1
    BehaviorGraph.load caravan = .ok caravanGraph ∧ caravanGraph.StaticBelow 0 ∧
      caravanGraph.nodes.length - 1 = caravanJourney.maxDepth ∧ WithinDepth evaluation.faults ∧
      ((caravanJourney.limitedTo 1).evaluateNode 0 {} acrobatScene).1.faults =
        [{ node := "Walk", fault := .depthExceeded 1 }] := by
  have loaded : BehaviorGraph.load caravan = .ok caravanGraph := by rfl
  have count : caravanGraph.nodes.length - 1 = caravanJourney.maxDepth := by rfl
  have shared : caravanJourney.graph = caravanGraph := rfl
  have within := static_graph_stays_within_depth loaded shared caravanGraph_staticBelow
    (Nat.le_of_eq count) {} acrobatScene
  exact ⟨loaded, caravanGraph_staticBelow, count, within, by rfl⟩

/-!
A node asks for the evaluation of its children and of nothing else, so two runs agree if
they agree on those.  Nobody takes back a fault: if the limit is not exceeded in the end,
it was not exceeded by any child, not even by one whose outcome does not count.
-/

/-! ### Evaluations that agree on the children -/

/-- Two ways to evaluate a node agree on some arrivals. -/
def Descent.AgreeOn (descend other : Descent σ) (met : List (Arrival σ)) : Prop :=
  ∀ child found, (child, found) ∈ met → other child found = descend child found

theorem Descent.agreeOn_append_iff {descend other : Descent σ} {met more : List (Arrival σ)} :
    descend.AgreeOn other (met ++ more) ↔
      descend.AgreeOn other met ∧ descend.AgreeOn other more := by
  simp only [AgreeOn, List.mem_append, or_imp, forall_and]

namespace Surroundings

open Descent (agreeOn_append_iff)

variable {surroundings : Surroundings σ} {descend other : Descent σ} {id : NodeId}
  {node : Node Edge} {state : EvalState σ}

/-- What follows from a child depends on the descent at the arrival there only. -/
theorem follow_congr {role : Role} {edge : Edge}
    (agree : descend.AgreeOn other (surroundings.arrival id node role edge state)) :
    surroundings.follow other id node role edge state =
      surroundings.follow descend id node role edge state := by
  simp only [follow, arrival] at agree ⊢
  cases target : surroundings.target node role (state.note (.followed id role)).scene edge with
  | error fault => rfl
  | ok child =>
      rw [target] at agree
      exact agree child _ List.mem_cons_self

theorem branch_congr {decision : Bool}
    (agree : descend.AgreeOn other (surroundings.branchArrivals id node decision state)) :
    surroundings.branch other id node decision state =
      surroundings.branch descend id node decision state := by
  cases decision with
  | true =>
      simp only [branch, branchArrivals] at agree ⊢
      cases found : node.children.success with
      | none => rfl
      | some edge =>
          rw [found] at agree
          exact follow_congr agree
  | false =>
      simp only [branch, branchArrivals] at agree ⊢
      cases found : node.children.failure with
      | none => rfl
      | some edge =>
          rw [found] at agree
          exact follow_congr agree

theorem runAll_congr {entries : List (Int × Edge)}
    (agree : descend.AgreeOn other (surroundings.runAllArrivals descend id node entries state)) :
    surroundings.runAll other id node entries state =
      surroundings.runAll descend id node entries state := by
  induction entries generalizing state with
  | nil => rfl
  | cons entry rest ih =>
      rcases entry with ⟨key, edge⟩
      simp only [runAllArrivals] at agree
      obtain ⟨first, later⟩ := agreeOn_append_iff.mp agree
      simp only [runAll, follow_congr first]
      split
      · rfl
      · next goesOn =>
          rw [if_neg goesOn] at later
          exact ih later

/-- What a selector or a sequence does depends on the descent at its own arrivals only. -/
theorem decide_congr {mode : SwitchMode} {entries : List (Int × Edge)}
    (agree : descend.AgreeOn other
      (surroundings.decideArrivals descend id node mode entries state)) :
    surroundings.decide other id node mode entries state =
      surroundings.decide descend id node mode entries state := by
  induction entries generalizing state with
  | nil => rfl
  | cons entry rest ih =>
      rcases entry with ⟨key, edge⟩
      simp only [decideArrivals] at agree
      obtain ⟨first, later⟩ := agreeOn_append_iff.mp agree
      simp only [decide, follow_congr first]
      rcases ended : surroundings.follow descend id node (.numbered key) edge state
        with ⟨outcome, after⟩
      rw [ended] at later
      cases mode <;> cases outcome <;> first | rfl | exact ih later

theorem runGuarded_congr
    (agree : descend.AgreeOn other (surroundings.eventArrivals id node state)) :
    surroundings.runGuarded other id node state =
      surroundings.runGuarded descend id node state := by
  simp only [runGuarded, eventArrivals] at agree ⊢
  cases found : node.children.event with
  | none => rfl
  | some edge =>
      rw [found] at agree
      simp only [follow_congr agree]

/-- The work of a node depends on its children only through the evaluations of those to
which it comes. -/
theorem work_congr
    (agree : descend.AgreeOn other (surroundings.arrivals descend id node state)) :
    surroundings.work other id node state = surroundings.work descend id node state := by
  unfold work
  unfold arrivals at agree
  cases kind : node.kind with
  | multi =>
      simp only [kind] at agree ⊢
      rw [runAll_congr agree]
  | engineWrapper =>
      simp only [kind, eventArrivals] at agree ⊢
      cases found : node.children.event with
      | none => rfl
      | some edge =>
          rw [found] at agree
          simp only [follow_congr agree]
  | onGround tolerance =>
      simp only [kind] at agree ⊢
      cases known : state.scene.read tolerance with
      | error fault => rfl
      | ok value =>
          rw [known] at agree
          exact congrArg Except.ok (branch_congr agree)
  | switch mode =>
      simp only [kind] at agree ⊢
      obtain ⟨choice, way⟩ := agreeOn_append_iff.mp agree
      rw [decide_congr choice, branch_congr way]
  | singleGuard =>
      simp only [kind] at agree ⊢
      split
      · rfl
      · next fresh =>
          rw [if_neg fresh] at agree
          rw [runGuarded_congr agree]
  | collision mine other otherName =>
      simp only [kind] at agree ⊢
      rw [branch_congr agree]
  | mouseButton query =>
      simp only [kind] at agree ⊢
      rw [branch_congr agree]
  | compare left right relations =>
      simp only [kind] at agree ⊢
      cases first : state.scene.read left with
      | error fault => rfl
      | ok left =>
          cases second : state.scene.read right with
          | error fault => rfl
          | ok right =>
              cases compared : Value.compare relations left right with
              | error fault => simp only [bind, Except.bind, compared]
              | ok decision =>
                  simp only [first, second, compared, bind, Except.bind] at agree ⊢
                  rw [branch_congr agree]
  | _ => rfl

/-! ### Faults stay -/

/-- Faults are added and never taken back. -/
theorem keeps_faults (surroundings : Surroundings σ) (faults : List NodeFault) :
    surroundings.Keeps fun state : EvalState σ => faults <+: state.faults where
  note _ before := before
  fail _ _ before := before.trans (List.prefix_append _ _)
  change _ change before := change.faults_eq ▸ before

/-- What was at fault at a child is at fault in the end. -/
theorem Course.faults_prefix {before after : EvalState σ} {met : List (Arrival σ)}
    (grows : ∀ child found, found.faults <+: (descend child found).2.faults)
    (course : surroundings.Course descend id node before met after) {child : NodeId}
    {found : EvalState σ} (member : (child, found) ∈ met) :
    (descend child found).2.faults <+: after.faults := by
  induction course with
  | start => cases member
  | change _ change ih => exact change.faults_eq ▸ ih member
  | look _ _ ih => exact ih member
  | fail _ _ ih => exact (ih member).trans (List.prefix_append _ _)
  | enter _ other ih =>
      rcases List.mem_append.mp member with earlier | last
      · exact (ih earlier).trans (grows _ _)
      · cases List.mem_singleton.mp last
        exact List.prefix_rfl

/-! ### Another limit -/

/-- A limit does not change how a multi goes through its children. -/
theorem runAll_limitedTo (limit : Nat) (entries : List (Int × Edge)) :
    (surroundings.limitedTo limit).runAll descend id node entries state =
      surroundings.runAll descend id node entries state := by
  induction entries generalizing state with
  | nil => rfl
  | cons entry rest ih =>
      simp only [runAll, ih]
      rfl

theorem decide_limitedTo (limit : Nat) (mode : SwitchMode) (entries : List (Int × Edge)) :
    (surroundings.limitedTo limit).decide descend id node mode entries state =
      surroundings.decide descend id node mode entries state := by
  induction entries generalizing state with
  | nil => rfl
  | cons entry rest ih =>
      simp only [decide, ih]
      rfl

/-- The work of a node does not look at the limit. -/
theorem work_limitedTo (limit : Nat) :
    (surroundings.limitedTo limit).work descend id node state =
      surroundings.work descend id node state := by
  unfold work
  cases node.kind with
  | multi => simp only [runAll_limitedTo]
  | switch mode =>
      simp only [decide_limitedTo]
      rfl
  | _ => rfl

/-- An execution is the same under another limit, if its children are evaluated to the
same. -/
theorem execute_limitedTo (limit : Nat)
    (agree : descend.AgreeOn other
      (surroundings.arrivals descend id node (state.note (.started id)))) :
    (surroundings.limitedTo limit).execute other id node state =
      surroundings.execute descend id node state := by
  rw [execute_eq, execute_eq, work_limitedTo, work_congr agree]

/-- A run that stays within the depth is the same with more levels and whatever limit. -/
theorem run_limitedTo {levels deeper : Nat} (more : levels ≤ deeper) (limit : Nat)
    (within : WithinDepth (surroundings.run levels id state).2.faults) :
    (surroundings.limitedTo limit).run deeper id state = surroundings.run levels id state := by
  induction levels generalizing id state deeper with
  | zero =>
      cases stands : surroundings.graph.nodes[id]? with
      | none => cases deeper <;> simp only [run, limitedTo, stands]
      | some node =>
          simp only [run, stands] at within
          exact absurd rfl (within _ (List.mem_append_right _ List.mem_cons_self) _)
  | succ levels ih =>
      obtain ⟨deeper, rfl⟩ := Nat.exists_eq_add_one_of_ne_zero (Nat.ne_zero_of_lt more)
      cases stands : surroundings.graph.nodes[id]? with
      | none => simp only [run, limitedTo, stands]
      | some node =>
          obtain ⟨outcome, worked, course, ended⟩ :=
            execute_course surroundings (surroundings.run levels) id node state
          simp only [run, stands, ended] at within
          have agree : Descent.AgreeOn (surroundings.run levels)
              ((surroundings.limitedTo limit).run deeper)
              (surroundings.arrivals (surroundings.run levels) id node
                (state.note (.started id))) := by
            intro child found member
            -- The faults of a child are still there at the end of its parent, so neither has
            -- one of the depth.
            have kept := course.faults_prefix
              (fun child found => (surroundings.keeps_faults _).run levels child List.prefix_rfl)
              member
            apply ih (Nat.le_of_succ_le_succ more)
            intro entry below
            exact within entry (kept.subset below)
          have there : (surroundings.limitedTo limit).graph.nodes[id]? = some node := stands
          simp only [run, stands, there, execute_limitedTo limit agree]

end Surroundings

/-- **The limit on the depth does not matter otherwise.**  An evaluation that reports no
fault that the limit is exceeded is the same under any greater limit: the report with the
outcome, the STOP signal, the faults, the axes and the journal, and the scene with the
actor, the variables of the map, the requests and the animations. -/
theorem depth_limit_does_not_matter {surroundings : Surroundings σ} {limit : Nat}
    (more : surroundings.maxDepth ≤ limit) {root : NodeId} {locks : AxisLocks} {scene : Scene σ}
    (within : WithinDepth (surroundings.evaluateNode root locks scene).1.faults) :
    (surroundings.limitedTo limit).evaluateNode root locks scene =
      surroundings.evaluateNode root locks scene := by
  have same : (surroundings.limitedTo limit).run (limit + 1) root (.begin scene locks) =
      surroundings.run (surroundings.maxDepth + 1) root (.begin scene locks) :=
    Surroundings.run_limitedTo (Nat.succ_le_succ more) limit within
  have deeper : (surroundings.limitedTo limit).maxDepth = limit := rfl
  simp only [Surroundings.evaluateNode, deeper, same]

/-- The guest comes from the gate to the hall and back to the gate.  That takes two levels
below the first, and all further ones change nothing. -/
theorem depth_limit_does_not_matter_gatehouse :
    let visit := (gatehouseVisit.limitedTo 2).evaluateNode 0 {} gatehouseScene
    beginnings visit.1.journal = [0, 1, 0] ∧ visit.1.faults = [] ∧
      gatehouseVisit.evaluateNode 0 {} gatehouseScene = visit ∧
      ((gatehouseVisit.limitedTo 1).evaluateNode 0 {} gatehouseScene).1.faults =
        [{ node := "Gate", fault := .depthExceeded 1 }] := by
  intro visit
  have faultless : visit.1.faults = [] := by rfl
  have within : WithinDepth visit.1.faults := by
    intro entry member
    rw [faultless] at member
    cases member
  have more : (gatehouseVisit.limitedTo 2).maxDepth ≤ gatehouseVisit.maxDepth := by decide
  exact ⟨by rfl, faultless, depth_limit_does_not_matter more within, by rfl⟩

end Stagecraft
