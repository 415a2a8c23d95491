/-
Module: Stagecraft.Proofs.Confinement
Purpose: The events of an actor stay within the namespace of its template and the
  map, whatever its variables hold.
Main exports:
  BehaviorGraph.Confined, Walk.confined, evaluations_are_confined
-/
import Stagecraft.Proofs.Walk

namespace Stagecraft

variable {σ : Type}

/-!
A name is always looked up from the namespace of the node that mentions it.  A
node of the map sees only the map, so a walk that has come to the map stays there;
and an engine wrapper sees only the map from anywhere.
-/

/-- A node below which everything belongs to the map: one of the map itself, or an
engine wrapper. -/
def Node.Encloses {ρ : Type} (node : Node ρ) : Prop :=
  node.home = .map ∨ node.kind = .engineWrapper

namespace BehaviorGraph

variable {graph : BehaviorGraph} {home : Namespace} {root : NodeId}

/-- A node that belongs to a namespace or to the map; if one of the nodes above it
encloses it, to the map. -/
def BelongsBelow (graph : BehaviorGraph) (home : Namespace) (above : List NodeId)
    (id : NodeId) : Prop :=
  ∃ node, graph.nodes[id]? = some node ∧ (node.home = home ∨ node.home = .map) ∧
    ∀ other ∈ above, ∀ encloser, graph.nodes[other]? = some encloser → encloser.Encloses →
      node.home = .map

/-- Every node that begins belongs below the nodes that are open by then. -/
def Confined (graph : BehaviorGraph) (home : Namespace) (journal : List JournalEntry) : Prop :=
  ∀ later id earlier, journal = later ++ .started id :: earlier →
    graph.BelongsBelow home (openNodes earlier) id

namespace Confined

variable {journal : List JournalEntry}

theorem nil : graph.Confined home [] := by
  intro later id earlier parts
  simp at parts

/-- An entry that begins no node confines nothing. -/
theorem cons (confined : graph.Confined home journal) {entry : JournalEntry}
    (other : ∀ id, entry ≠ .started id) : graph.Confined home (entry :: journal) := by
  intro later id earlier parts
  cases later with
  | nil =>
      have same := (List.cons.inj parts).1
      exact absurd same (other id)
  | cons _ later => exact confined later id earlier (List.cons.inj parts).2

/-- A node that belongs below the open ones may start. -/
theorem started (confined : graph.Confined home journal) {id : NodeId}
    (belongs : graph.BelongsBelow home (openNodes journal) id) :
    graph.Confined home (.started id :: journal) := by
  intro later other earlier parts
  cases later with
  | nil =>
      obtain ⟨same, rfl⟩ := List.cons.inj parts
      cases same
      exact belongs
  | cons _ later => exact confined later other earlier (List.cons.inj parts).2

end Confined

/-- Every node of a stack belongs below the others. -/
def Nested (graph : BehaviorGraph) (home : Namespace) : List NodeId → Prop
  | [] => True
  | id :: above => graph.BelongsBelow home above id ∧ Nested graph home above

/-- What may be entered from the top of nested nodes belongs below all of them. -/
theorem Nested.belongsBelow (indexed : graph.Indexed) (rooted : graph.Visible home false root)
    {stack : List NodeId} (nested : graph.Nested home stack) {id : NodeId}
    (allowed : graph.Allows root stack id) : graph.BelongsBelow home stack id := by
  cases stack with
  | nil =>
      obtain rfl : id = root := allowed
      obtain ⟨node, stands, seen⟩ := indexed.exists_of_visible rooted
      refine ⟨node, stands, ?_, fun _ member => absurd member List.not_mem_nil⟩
      rcases seen with shared | ⟨own, -⟩
      · exact .inr shared
      · exact .inl own
  | cons parent above =>
      rcases nested with ⟨⟨parentNode, here, within, below⟩, -⟩
      rcases allowed with ⟨same, standsSame, visible⟩
      obtain rfl : same = parentNode := Option.some.inj (standsSame.symm.trans here)
      obtain ⟨node, stands, seen⟩ := indexed.exists_of_visible visible
      -- Either the node is of the map, or it is at home where its parent is, and
      -- the parent is no engine wrapper.
      rcases seen with shared | ⟨together, plain⟩
      · exact ⟨node, stands, .inr shared, fun _ _ _ _ _ => shared⟩
      · have notWrapper : same.kind ≠ .engineWrapper := by simpa using plain
        refine ⟨node, stands, by rw [together]; exact within, ?_⟩
        intro other member encloser standsOther encloses
        rw [together]
        rcases List.mem_cons.mp member with rfl | higher
        · obtain rfl : encloser = same := Option.some.inj (standsOther.symm.trans here)
          exact encloses.resolve_right notWrapper
        · exact below other higher encloser standsOther encloses

/-- A walk from a visible root is confined, and its open nodes are nested. -/
theorem Walk.confined (indexed : graph.Indexed) (rooted : graph.Visible home false root)
    {stack : List NodeId} {journal : List JournalEntry} (walk : graph.Walk root stack journal) :
    graph.Nested home stack ∧ graph.Confined home journal := by
  induction walk with
  | begin => exact ⟨trivial, .nil⟩
  | enter walk allowed _ ih =>
      have belongs := ih.1.belongsBelow indexed rooted allowed
      refine ⟨⟨belongs, ih.1⟩, ih.2.started ?_⟩
      rw [walk.openNodes_eq]
      exact belongs
  | remark _ remark ih =>
      refine ⟨ih.1, ih.2.cons ?_⟩
      rintro id rfl
      exact remark
  | leave _ outcome ih => exact ⟨ih.1.2, ih.2.cons fun id => nofun⟩

end BehaviorGraph

namespace Surroundings

/-- **Namespaces confine evaluations.**  In a loaded graph, an evaluation for an
actor begins only nodes of the namespace of its template and of the map, and below
a node of the map or an engine wrapper only nodes of the map.  This holds for roots
that are resolved by name and for those that the template runs, whatever the scene
and so the variables that name children hold. -/
theorem evaluations_are_confined {document : Document} {graph : BehaviorGraph}
    (loaded : BehaviorGraph.load document = .ok graph) (surroundings : Surroundings σ)
    (shared : surroundings.graph = graph) (scene : Scene σ) :
    (∀ name, graph.Confined scene.actor.home (surroundings.evaluate name scene).1.journal) ∧
      ∀ template, graph.template scene.actor.template = .ok template →
        ∀ id locks, template.Runs id →
          graph.Confined scene.actor.home (surroundings.evaluateNode id locks scene).1.journal := by
  subst shared
  have linked := BehaviorGraph.load_linked loaded
  have visible : ∀ id locks, surroundings.graph.Visible scene.actor.home false id →
      surroundings.graph.Confined scene.actor.home
        (surroundings.evaluateNode id locks scene).1.journal := by
    intro id locks rooted
    obtain ⟨node, stands, -⟩ := linked.indexed.exists_of_visible rooted
    exact ((evaluateNode_walk linked stands locks scene).confined linked.indexed rooted).2
  constructor
  · intro name
    simp only [evaluate]
    split
    · next id found => exact visible id {} ⟨name, found⟩
    · exact .nil
  · intro template known id locks runs
    exact visible id locks (linked.root known runs)

/-- The player's secret is no cue for the curtain of the map, which ends at fault;
for the player itself it is one. -/
theorem evaluations_are_confined_theatre :
    let evaluation := (theatreEvening.evaluate "Act" theatreScene).1
    BehaviorGraph.load theatre = .ok theatreGraph ∧
      theatreGraph.Confined (.actor "Player") evaluation.journal ∧
      (evaluation.journal.reverse.filter fun entry => entry matches .started _) =
        [.started 4, .started 3, .started 0, .started 2] ∧
      evaluation.faults = [{ node := "Curtain", fault := .dynamicTarget "cue" }] ∧
      theatreGraph.template "Player" = .ok player ∧ player.Runs 4 ∧
      theatreGraph.Confined (.actor "Player")
        (theatreEvening.evaluateNode 4 {} theatreScene).1.journal := by
  intro evaluation
  obtain ⟨byName, byTemplate⟩ :=
    evaluations_are_confined load_theatre theatreEvening rfl theatreScene
  have runs : player.Runs 4 := .event List.mem_cons_self rfl
  exact ⟨load_theatre, byName "Act", by decide, by decide, template_player, runs,
    byTemplate player template_player 4 {} runs⟩

end Surroundings

end Stagecraft
