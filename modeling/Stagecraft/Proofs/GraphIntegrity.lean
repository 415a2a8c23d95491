/-
Module: Stagecraft.Proofs.GraphIntegrity
Purpose: All numbers in a loaded graph are positions of its nodes, and no
  evaluation and no dispatch meets any other number.
Main exports:
  BehaviorGraph.MaySustain, BehaviorGraph.InRange, loaded_graph_is_closed
-/
import Stagecraft.Proofs.Dispatch
import Stagecraft.Proofs.Walk

namespace Stagecraft

open Relation (TransGen)

variable {σ : Type}

namespace BehaviorGraph

variable {graph : BehaviorGraph}

/-- The sustained actions with which dispatches on a graph leave an actor that began
without any. -/
inductive MaySustain (σ : Type) (graph : BehaviorGraph) : SustainedActions → Prop where
  | idle {actions : SustainedActions} (rests : actions.active = []) : MaySustain σ graph actions
  | dispatch {surroundings : Surroundings σ} (shared : surroundings.graph = graph)
      {name : String} {template : Template} (known : graph.template name = .ok template)
      (keys : KeyName → KeyEdge) {scene : Scene σ}
      (earlier : MaySustain σ graph scene.actor.sustained) :
      MaySustain σ graph (surroundings.dispatch template keys scene).2.actor.sustained

/-- A number below which a node stands. -/
def InRange (graph : BehaviorGraph) (id : NodeId) : Prop := id < graph.nodes.length

namespace Linked

/-- What is visible from anywhere is a node of the graph. -/
theorem inRange_of_visible (linked : graph.Linked) {home : Namespace} {mapOnly : Bool}
    {id : NodeId} (visible : graph.Visible home mapOnly id) : graph.InRange id := by
  obtain ⟨node, stands, -⟩ := linked.indexed.exists_of_visible visible
  exact (List.getElem?_eq_some_iff.mp stands).1

theorem inRange_of_runs (linked : graph.Linked) {name : String} {template : Template}
    (known : graph.template name = .ok template) {id : NodeId} (runs : template.Runs id) :
    graph.InRange id :=
  linked.inRange_of_visible (linked.root known runs)

/-- What dispatches leave behind are actions with events of the graph. -/
theorem keyed_and_all_of_maySustain (linked : graph.Linked) {actions : SustainedActions}
    (sustains : graph.MaySustain σ actions) : actions.Keyed ∧ actions.All graph.InRange := by
  induction sustains with
  | idle rests =>
      constructor
      · simp [SustainedActions.Keyed, rests]
      · simp [SustainedActions.All, rests]
  | dispatch _ known keys _ ih =>
      obtain ⟨keyed, all, -⟩ := Surroundings.dispatch_within
        (fun _ runs => linked.inRange_of_runs known runs) keys ih.1 ih.2
      exact ⟨keyed, all⟩

/-- An evaluation that starts in range stays in range. -/
theorem stray_notMem {surroundings : Surroundings σ} (linked : surroundings.graph.Linked)
    {id : NodeId} (inRange : surroundings.graph.InRange id) (locks : AxisLocks) (scene : Scene σ)
    (other : NodeId) : .stray other ∉ (surroundings.evaluateNode id locks scene).1.journal := by
  have stands := List.getElem?_eq_getElem inRange
  exact (surroundings.evaluateNode_walk linked stands locks scene).stray_notMem other

end Linked

end BehaviorGraph

/-- **A loaded graph is closed.**  The children of its nodes, the events of its
templates and the numbers of its names are positions of its nodes; a number belongs to
a name exactly when the node there has the name, so no two nodes share one; and
static edges form no cycle.  Therefore no evaluation and no dispatch on the graph
meets a number without a node, given that the sustained actions of the actor come
from dispatches on the graph. -/
theorem loaded_graph_is_closed {document : Document} {graph : BehaviorGraph}
    (loaded : BehaviorGraph.load document = .ok graph) :
    (∀ (id child : NodeId) node role, graph.nodes[id]? = some node →
      (role, .node child) ∈ node.children.toList → graph.InRange child) ∧
    (∀ name template id, graph.template name = .ok template → template.Runs id →
      graph.InRange id) ∧
    (∀ home name id, graph.find? home name = some id ↔
      ∃ node, graph.nodes[id]? = some node ∧ node.home = home ∧ node.name = name) ∧
    (∀ (id other : NodeId) node twin, graph.nodes[id]? = some node →
      graph.nodes[other]? = some twin →
        node.home = twin.home → node.name = twin.name → id = other) ∧
    (∀ id, ¬ TransGen graph.Leads id id) ∧
    ∀ surroundings : Surroundings σ, surroundings.graph = graph → ∀ scene stray,
      (∀ root, .stray stray ∉ (surroundings.evaluate root scene).1.journal) ∧
      ∀ name template, graph.template name = .ok template →
        (∀ id locks, template.Runs id →
          .stray stray ∉ (surroundings.evaluateNode id locks scene).1.journal) ∧
        (graph.MaySustain σ scene.actor.sustained → ∀ keys,
          ∀ call ∈ (surroundings.dispatch template keys scene).1.calls,
            .stray stray ∉ call.evaluation.journal) := by
  have linked := BehaviorGraph.load_linked loaded
  refine ⟨?_, ?_, ?_, ?_, linked.acyclic, ?_⟩
  · intro id child node role stands member
    exact linked.inRange_of_visible (linked.child stands member)
  · intro name template id known runs
    exact linked.inRange_of_runs known runs
  · intro home name id
    rw [linked.indexed home name id]
    simp only [Node.key, Prod.mk.injEq]
  · intro id other node twin stands standsTwin home name
    have here := (linked.indexed _ _ _).mpr ⟨node, stands, rfl⟩
    have there := (linked.indexed _ _ _).mpr ⟨twin, standsTwin, rfl⟩
    rw [home, name] at here
    exact Option.some.inj (here.symm.trans there)
  · rintro surroundings rfl scene stray
    constructor
    · intro root
      simp only [Surroundings.evaluate]
      split
      · next id found =>
          exact linked.stray_notMem (linked.inRange_of_visible ⟨root, found⟩) {} scene stray
      · exact List.not_mem_nil
    · intro name template known
      constructor
      · intro id locks runs
        exact linked.stray_notMem (linked.inRange_of_runs known runs) locks scene stray
      · intro sustains keys call member
        -- A dispatch runs events of the template, or such as a sustained action has kept.
        obtain ⟨keyed, all⟩ := linked.keyed_and_all_of_maySustain sustains
        obtain ⟨-, -, calls⟩ := Surroundings.dispatch_within
          (fun _ runs => linked.inRange_of_runs known runs) keys keyed all
        obtain ⟨inRange, locks, before, evaluated⟩ := calls call member
        rw [evaluated]
        exact linked.stray_notMem inRange locks before stray

/-- The player presses a key and lets it go: the action that the first dispatch has
begun runs an event of the graph at its end. -/
theorem loaded_graph_is_closed_theatre :
    let pressed := theatreEvening.dispatch player
      (fun _ => { held := true, pressed := true }) theatreScene
    let released := theatreEvening.dispatch player (fun _ => { released := true }) pressed.2
    BehaviorGraph.load theatre = .ok theatreGraph ∧
      theatreGraph.template "Player" = .ok player ∧ player.Runs 4 ∧ theatreGraph.InRange 4 ∧
      theatreGraph.MaySustain Controller pressed.2.actor.sustained ∧
      pressed.1.invoked = [4] ∧ released.1.invoked = [1] ∧
      ∀ call ∈ released.1.calls, ∀ stray, .stray stray ∉ call.evaluation.journal := by
  intro pressed released
  have runs : player.Runs 4 := .event List.mem_cons_self rfl
  have shared : theatreEvening.graph = theatreGraph := rfl
  have sustains : theatreGraph.MaySustain Controller pressed.2.actor.sustained :=
    .dispatch shared template_player _ (.idle rfl)
  obtain ⟨-, events, -, -, -, inside⟩ := loaded_graph_is_closed load_theatre
  refine ⟨load_theatre, template_player, runs, events "Player" player 4 template_player runs,
    sustains, by decide, by decide, ?_⟩
  intro call member stray
  obtain ⟨-, byTemplate⟩ := inside theatreEvening shared pressed.2 stray
  exact (byTemplate "Player" player template_player).2 sustains _ call member

end Stagecraft
