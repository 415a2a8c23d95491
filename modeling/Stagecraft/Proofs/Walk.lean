/-
Module: Stagecraft.Proofs.Walk
Purpose: The journal of an evaluation records a walk: from the root down to
  children that their parents may see, and back.
Main exports:
  openNodes, BehaviorGraph.Walk, Surroundings.run_walk,
  Surroundings.evaluateNode_walk, Walk.openNodes_eq, Walk.stray_notMem, theatre
-/
import Stagecraft.Evaluation.Rehearsal
import Stagecraft.Proofs.Activity
import Stagecraft.Proofs.Links

namespace Stagecraft

variable {σ : Type}

/-!
A walk keeps a stack of the nodes that have begun and not ended.  It enters the
root, or a node that is visible from the one on top of the stack; and it leaves
the node on top.  Whatever a variable names at run time is looked up in the same
way as the names of the document, so dynamic children make no difference.
-/

/-- The nodes that have begun and not ended, the innermost one first.  The latest
entry of the journal comes first. -/
def openNodes : List JournalEntry → List NodeId
  | [] => []
  | .started id :: earlier => id :: openNodes earlier
  | .finished _ _ :: earlier => (openNodes earlier).tail
  | _ :: earlier => openNodes earlier

/-- An entry that a node makes while it works. -/
def JournalEntry.IsRemark : JournalEntry → Prop
  | .followed _ _ | .animationCompleted _ | .measured _ _ => True
  | .started _ | .finished _ _ | .stray _ => False

namespace BehaviorGraph

/-- A node may enter those that are visible from its namespace.  An engine wrapper
sees the map alone. -/
def Enters (graph : BehaviorGraph) (parent child : NodeId) : Prop :=
  ∃ node, graph.nodes[parent]? = some node ∧
    graph.Visible node.home (node.kind == .engineWrapper) child

/-- What may be entered on top of a stack of open nodes. -/
def Allows (graph : BehaviorGraph) (root : NodeId) : List NodeId → NodeId → Prop
  | [], id => id = root
  | parent :: _, id => graph.Enters parent id

/-- Walks from a root, with the nodes that are open and the journal so far. -/
inductive Walk (graph : BehaviorGraph) (root : NodeId) :
    List NodeId → List JournalEntry → Prop where
  | begin : Walk graph root [] []
  | enter {stack : List NodeId} {journal : List JournalEntry} {id : NodeId} {node : Node Edge}
      (walk : Walk graph root stack journal) (allowed : graph.Allows root stack id)
      (stands : graph.nodes[id]? = some node) :
      Walk graph root (id :: stack) (.started id :: journal)
  | remark {stack : List NodeId} {journal : List JournalEntry} {entry : JournalEntry}
      (walk : Walk graph root stack journal) (remark : entry.IsRemark) :
      Walk graph root stack (entry :: journal)
  | leave {stack : List NodeId} {journal : List JournalEntry} {id : NodeId}
      (walk : Walk graph root (id :: stack) journal) (outcome : Outcome) :
      Walk graph root stack (.finished id outcome :: journal)

namespace Walk

variable {graph : BehaviorGraph} {root : NodeId} {stack : List NodeId}
  {journal : List JournalEntry}

/-- The open nodes of a walk can be read off its journal. -/
theorem openNodes_eq (walk : graph.Walk root stack journal) : openNodes journal = stack := by
  induction walk with
  | begin => rfl
  | enter _ _ _ ih => rw [openNodes, ih]
  | remark _ remark ih =>
      rename_i entry _
      cases entry <;> first | exact ih | exact remark.elim
  | leave _ _ ih => rw [openNodes, ih, List.tail_cons]

/-- A walk never meets a number without a node. -/
theorem stray_notMem (walk : graph.Walk root stack journal) (id : NodeId) :
    .stray id ∉ journal := by
  induction walk with
  | begin => exact List.not_mem_nil
  | enter _ _ _ ih | leave _ _ ih =>
      intro member
      rcases List.mem_cons.mp member with same | earlier
      · cases same
      · exact ih earlier
  | remark _ remark ih =>
      intro member
      rcases List.mem_cons.mp member with same | earlier
      · exact (same ▸ remark : JournalEntry.IsRemark (.stray id)).elim
      · exact ih earlier

end Walk

end BehaviorGraph

namespace Surroundings

variable {surroundings : Surroundings σ} {root : NodeId} {stack : List NodeId}

/-- Whatever a child leads to is visible from its parent, also when a variable
names it. -/
theorem visible_of_target (linked : surroundings.graph.Linked) {id : NodeId} {node : Node Edge}
    (stands : surroundings.graph.nodes[id]? = some node) {role : Role} {edge : Edge}
    (member : (role, edge) ∈ node.children.toList) {scene : Scene σ} {child : NodeId}
    (leads : surroundings.target node role scene edge = .ok child) :
    surroundings.graph.Visible node.home (isMapOnly node.kind role) child := by
  cases edge with
  | node other =>
      cases leads
      exact linked.child stands member
  | «variable» name =>
      simp only [target] at leads
      split at leads
      · cases leads
      · split at leads
        · next id found =>
            cases leads
            obtain ⟨text, -, found⟩ := Option.bind_eq_some_iff.mp found
            exact ⟨text, found⟩
        · cases leads

/-- A change makes at most a remark. -/
theorem Change.walk {id : NodeId} {node : Node Edge} {before after : EvalState σ}
    (change : surroundings.Change id node before after)
    (walk : surroundings.graph.Walk root stack before.journal) :
    surroundings.graph.Walk root stack after.journal := by
  cases change with
  | measure | complete => exact walk.remark trivial
  | land kind grounded =>
      simp only [EvalState.land]
      split <;> exact walk.remark trivial
  | propel | move | turn | leave | pose | pass | assign | animate | stop | issue => exact walk

/-- The work of the node on top of the stack goes on with the walk. -/
theorem activities_walk (linked : surroundings.graph.Linked) {descend : Descent σ}
    {id : NodeId} {node : Node Edge} (stands : surroundings.graph.nodes[id]? = some node)
    (children : ∀ child state, surroundings.graph.Enters id child →
      surroundings.graph.Walk root (id :: stack) state.journal →
        surroundings.graph.Walk root (id :: stack) (descend child state).2.journal)
    {before after : EvalState σ} (active : surroundings.Activities descend id node before after)
    (walk : surroundings.graph.Walk root (id :: stack) before.journal) :
    surroundings.graph.Walk root (id :: stack) after.journal := by
  induction active with
  | refl => exact walk
  | tail _ activity ih =>
      cases activity with
      | change change => exact change.walk ih
      | look role => exact ih.remark trivial
      | @enter role edge child member wraps leads =>
          refine children child _ ⟨node, stands, ?_⟩ ih
          have mapOnly : isMapOnly node.kind role = (node.kind == .engineWrapper) := by
            by_cases wrapper : node.kind = .engineWrapper
            · simp [isMapOnly, wrapper, wraps wrapper]
            · simp [isMapOnly, wrapper]
          rw [← mapOnly]
          exact visible_of_target linked stands member leads
      | fail fault => exact ih

/-- A run walks down and comes back to the node from which it started. -/
theorem run_walk (linked : surroundings.graph.Linked) (levels : Nat) {id : NodeId}
    {node : Node Edge} (stands : surroundings.graph.nodes[id]? = some node)
    {state : EvalState σ} (allowed : surroundings.graph.Allows root stack id)
    (walk : surroundings.graph.Walk root stack state.journal) :
    surroundings.graph.Walk root stack (surroundings.run levels id state).2.journal := by
  induction levels generalizing id node stack state with
  | zero =>
      simp only [run, stands]
      exact walk
  | succ levels ih =>
      simp only [run, stands]
      obtain ⟨outcome, worked, active, ended⟩ :=
        execute_activities surroundings (surroundings.run levels) id node state
      rw [ended]
      apply BehaviorGraph.Walk.leave
      apply activities_walk linked stands _ active (walk.enter allowed stands)
      rintro child between ⟨parent, here, visible⟩ walked
      obtain ⟨_, standsBelow, -⟩ := linked.indexed.exists_of_visible visible
      exact ih standsBelow ⟨parent, here, visible⟩ walked

/-- The journal of an evaluation records a walk that has come to its end. -/
theorem evaluateNode_walk (linked : surroundings.graph.Linked) {id : NodeId} {node : Node Edge}
    (stands : surroundings.graph.nodes[id]? = some node) (locks : AxisLocks) (scene : Scene σ) :
    surroundings.graph.Walk id [] (surroundings.evaluateNode id locks scene).1.journal := by
  have begun : surroundings.graph.Walk id [] (EvalState.begin scene locks).journal := .begin
  have allowed : surroundings.graph.Allows id [] id := rfl
  exact run_walk linked (surroundings.maxDepth + 1) stands allowed begun

end Surroundings

/-! ### An example: one name in two namespaces -/

def textProperty (name text : String) : PropertyEntry := { name, value := .text text }

/-- A player who acts as long as a key is held: it calls for the curtain of the map,
although it has one of its own, and then follows its variable `cue`. -/
def theatre : Document :=
  { mapEvents :=
      [ { name := "Curtain", kind := "multi", properties := [textProperty "1" "*cue"] } ]
    actors :=
      [ { name := "Player"
          events :=
            [ { name := "Curtain", kind := "move" },
              { name := "Secret", kind := "move" },
              { name := "Call", kind := "engine-wrapper"
                properties := [textProperty "EVENT" "Curtain"] },
              { name := "Act", kind := "multi"
                properties := [textProperty "1" "Call", textProperty "2" "*cue"] } ]
          bindings :=
            [ { key := "A"
                properties :=
                  [ textProperty "EVENT" "Act", textProperty "STOP_EVENT" "Curtain",
                    { name := "SUSTAINED", value := .bool true } ] } ] } ] }

/-- The graph of the theatre: the curtain of the map is number 0, and the nodes of the
player are numbers 1 to 4. -/
def theatreGraph : BehaviorGraph := (BehaviorGraph.load theatre).toOption.getD {}

theorem load_theatre : BehaviorGraph.load theatre = .ok theatreGraph := by rfl

def player : Template := (theatreGraph.template "Player").toOption.getD default

theorem template_player : theatreGraph.template "Player" = .ok player := by rfl

def theatreEvening : Surroundings Controller :=
  rehearsal theatreGraph 8 0.5 (.fixed false 0) []

/-- The scene of a player whose cue is its secret. -/
def theatreScene : Scene Controller :=
  { actor :=
      { id := 1, template := "Player", store := .ofList [("cue", .text "Secret")] }
    map := .empty
    requests := []
    animation := .instant }

end Stagecraft
