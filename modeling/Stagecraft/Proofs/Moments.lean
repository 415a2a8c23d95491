/-
Module: Stagecraft.Proofs.Moments
Purpose: The moments of an evaluation in the order of time, and what is never undone
  from one of them to a later one.
Main exports:
  Root, Surroundings.evaluateRoot, Surroundings.executionsFrom, Surroundings.momentsFrom,
  Surroundings.evaluateRoot_cases, Surroundings.beginnings_evaluateRoot, Surroundings.Persists,
  Persists.run, Persists.spans_moments, Persists.momentsFrom_ordered
-/
import Stagecraft.Proofs.Performances

namespace Stagecraft

variable {σ : Type}

/-! ### Moments -/

namespace Surroundings

variable (surroundings : Surroundings σ)

/-- The arrivals at the children of a node that is evaluated with some levels below it. -/
def meets (levels : Nat) (id : NodeId) (state : EvalState σ) : List (Arrival σ) :=
  match surroundings.graph.nodes[id]? with
  | some node =>
      surroundings.arrivals (surroundings.run levels) id node (state.note (.started id))
  | none => []

/-- The moments of the evaluation of a node in the order of time: the states in which it
and the nodes below it begin and end. -/
def moments : Nat → NodeId → EvalState σ → List (EvalState σ)
  | 0, id, state => [state, (surroundings.run 0 id state).2]
  | levels + 1, id, state =>
      state ::
        ((surroundings.meets levels id state).flatMap fun (child, found) =>
          moments levels child found) ++
        [(surroundings.run (levels + 1) id state).2]

end Surroundings

/-- The moments of a performance in the order of time. -/
def Performance.moments (performance : Performance σ) : List (EvalState σ) :=
  performance.surroundings.moments (performance.surroundings.maxDepth + 1) performance.event
    (.begin performance.scene performance.locks)

/-! ### Roots -/

/-- What an evaluation starts from: a node, with the axes that others hold, or a name. -/
inductive Root where
  | node (id : NodeId) (locks : AxisLocks)
  | name (text : String)
deriving Repr, DecidableEq, Inhabited

namespace Root

def locks : Root → AxisLocks
  | node _ locks => locks
  | name _ => {}

/-- The node that is meant, as the actors of a namespace know it. -/
def id? (graph : BehaviorGraph) (home : Namespace) : Root → Option NodeId
  | node id _ => some id
  | name text => graph.resolve? home text false

/-- A number has to be that of a node; a name may mean nothing. -/
def StandsIn (graph : BehaviorGraph) : Root → Prop
  | node id _ => id < graph.nodes.length
  | name _ => True

end Root

namespace Surroundings

variable (surroundings : Surroundings σ)

/-- The evaluation of a root for the actor of a scene. -/
def evaluateRoot (root : Root) (scene : Scene σ) : Evaluation × Scene σ :=
  match root with
  | .node id locks => surroundings.evaluateNode id locks scene
  | .name text => surroundings.evaluate text scene

/-- What is performed when a root is evaluated. -/
def rootPerformances (root : Root) (scene : Scene σ) : List (Performance σ) :=
  match root with
  | .node event locks => [{ surroundings, event, locks, scene }]
  | .name text => surroundings.namedPerformances text scene

def executionsFrom (root : Root) (scene : Scene σ) : List (Execution σ) :=
  (surroundings.rootPerformances root scene).flatMap Performance.executions

/-- The moments of the evaluation of a root in the order of time. -/
def momentsFrom (root : Root) (scene : Scene σ) : List (EvalState σ) :=
  (surroundings.rootPerformances root scene).flatMap Performance.moments

variable {surroundings} in
/-- The evaluation of a root is that of a node, unless the root is a name that means nothing.
Then nothing happens but that this is reported. -/
theorem evaluateRoot_cases (root : Root) (scene : Scene σ) :
    (∃ id, root.id? surroundings.graph scene.actor.home = some id ∧
      surroundings.evaluateRoot root scene = surroundings.evaluateNode id root.locks scene ∧
      surroundings.executionsFrom root scene =
        surroundings.executions (surroundings.maxDepth + 1) id (.begin scene root.locks) ∧
      surroundings.momentsFrom root scene =
        surroundings.moments (surroundings.maxDepth + 1) id (.begin scene root.locks)) ∨
    ∃ fault, surroundings.evaluateRoot root scene =
        ({ outcome := .failure, stopRaised := false, faults := [fault], locks := root.locks },
          scene) ∧
      surroundings.executionsFrom root scene = [] ∧ surroundings.momentsFrom root scene = [] := by
  cases root with
  | node id locks =>
      left
      exact ⟨id, rfl, rfl, List.append_nil _, List.append_nil _⟩
  | name text =>
      simp only [evaluateRoot, evaluate, executionsFrom, momentsFrom, rootPerformances,
        namedPerformances, Root.id?]
      cases surroundings.graph.resolve? scene.actor.home text false with
      | none => exact .inr ⟨_, rfl, rfl, rfl⟩
      | some id => exact .inl ⟨id, rfl, rfl, List.append_nil _, List.append_nil _⟩

variable {surroundings} in
/-- The executions of the evaluation of a root are those of its journal. -/
theorem beginnings_evaluateRoot (root : Root) (scene : Scene σ) :
    beginnings (surroundings.evaluateRoot root scene).1.journal =
      (surroundings.executionsFrom root scene).map Execution.id := by
  rcases surroundings.evaluateRoot_cases root scene with
    ⟨id, -, same, executions, -⟩ | ⟨_, same, executions, -⟩
  · rw [same, executions]
    have run := surroundings.beginnings_run (surroundings.maxDepth + 1) id
      (.begin scene root.locks)
    exact run.trans (List.nil_append _)
  · rw [same, executions]
    rfl

end Surroundings

/-!
Some things are not undone as long as an evaluation lasts: a fault is not taken back, and
STOP is not either.  To see this it is enough to look at single entries, faults and changes.
-/

/-! ### What persists -/

namespace Surroundings

variable {surroundings : Surroundings σ} {descend : Descent σ} {id : NodeId} {node : Node Edge}
  {before between after : EvalState σ}

/-- A relation of earlier to later states that no entry, no fault and no change of a node of
the graph breaks. -/
structure Persists (surroundings : Surroundings σ)
    (related : EvalState σ → EvalState σ → Prop) : Prop where
  refl : ∀ state, related state state
  trans : ∀ {before between after}, related before between → related between after →
    related before after
  note : ∀ state entry, related state (state.note entry)
  fail : ∀ state node fault, related state (state.fail node fault)
  change : ∀ {id : NodeId} {node : Node Edge} {before after : EvalState σ},
    surroundings.graph.nodes[id]? = some node → surroundings.Change id node before after →
      related before after

/-- Moments in between two states: each is related to the later ones. -/
structure Spans (related : EvalState σ → EvalState σ → Prop) (before : EvalState σ)
    (moments : List (EvalState σ)) (after : EvalState σ) : Prop where
  whole : related before after
  since : ∀ moment ∈ moments, related before moment
  upto : ∀ moment ∈ moments, related moment after
  ordered : moments.Pairwise related

namespace Persists

variable {related : EvalState σ → EvalState σ → Prop}

/-- Whatever comes after a start stays related to it. -/
theorem keeps (persists : surroundings.Persists related) (start : EvalState σ) :
    surroundings.Keeps (related start) where
  note entry holds := persists.trans holds (persists.note _ entry)
  fail node fault holds := persists.trans holds (persists.fail _ node fault)
  change stands change holds := persists.trans holds (persists.change stands change)

/-- What a run leaves is related to what it found. -/
theorem run (persists : surroundings.Persists related) (levels : Nat) (id : NodeId)
    (state : EvalState σ) : related state (surroundings.run levels id state).2 :=
  (persists.keeps state).run levels id (persists.refl state)

theorem spans_nil (whole : related before after) : Spans related before [] after where
  whole := whole
  since _ member := nomatch member
  upto _ member := nomatch member
  ordered := .nil

/-- Moments in a row, related step by step, may be put behind one another. -/
theorem spans_append (persists : surroundings.Persists related)
    {first second : List (EvalState σ)} (one : Spans related before first between)
    (two : Spans related between second after) :
    Spans related before (first ++ second) after where
  whole := persists.trans one.whole two.whole
  since := List.forall_mem_append.mpr
    ⟨one.since, fun moment member => persists.trans one.whole (two.since moment member)⟩
  upto := List.forall_mem_append.mpr
    ⟨fun moment member => persists.trans (one.upto moment member) two.whole, two.upto⟩
  ordered := by
    refine List.pairwise_append.mpr ⟨one.ordered, two.ordered, ?_⟩
    intro earlier inFirst later inSecond
    exact persists.trans (one.upto earlier inFirst) (two.since later inSecond)

/-- Beginning and end are moments themselves. -/
theorem spans_around (persists : surroundings.Persists related)
    {inner : List (EvalState σ)} (spans : Spans related before inner after) :
    Spans related before (before :: inner ++ [after]) after := by
  have single : ∀ state : EvalState σ, Spans related state [state] state := by
    intro state
    exact
      { whole := persists.refl state
        since := List.forall_mem_singleton.mpr (persists.refl state)
        upto := List.forall_mem_singleton.mpr (persists.refl state)
        ordered := List.pairwise_singleton _ _ }
  exact persists.spans_append (persists.spans_append (single before) spans) (single after)

/-- The moments of the children lie in between the beginning and the end of the course of a
node. -/
theorem spans_course (persists : surroundings.Persists related)
    (stands : surroundings.graph.nodes[id]? = some node)
    {inside : NodeId → EvalState σ → List (EvalState σ)}
    (children : ∀ child found, Spans related found (inside child found) (descend child found).2)
    {met : List (Arrival σ)} (course : surroundings.Course descend id node before met after) :
    Spans related before (met.flatMap fun (child, found) => inside child found) after := by
  induction course with
  | start => exact spans_nil (persists.refl before)
  | change _ change ih =>
      simpa using persists.spans_append ih (spans_nil (persists.change stands change))
  | look _ role ih =>
      simpa using persists.spans_append ih (spans_nil (persists.note _ (.followed id role)))
  | fail _ fault ih =>
      simpa using persists.spans_append ih (spans_nil (persists.fail _ node fault))
  | enter _ child ih =>
      rw [List.flatMap_append, List.flatMap_singleton]
      exact persists.spans_append ih (children child _)

/-- **Nothing that persists is undone**: every moment of a run is related to the later
ones. -/
theorem spans_moments (persists : surroundings.Persists related) (levels : Nat) (id : NodeId)
    (state : EvalState σ) :
    Spans related state (surroundings.moments levels id state)
      (surroundings.run levels id state).2 := by
  induction levels generalizing id state with
  | zero => exact persists.spans_around (spans_nil (persists.run 0 id state))
  | succ levels ih =>
      apply persists.spans_around
      cases stands : surroundings.graph.nodes[id]? with
      | none =>
          simp only [meets, stands]
          exact spans_nil (persists.run (levels + 1) id state)
      | some node =>
          obtain ⟨outcome, worked, course, ended⟩ :=
            execute_course surroundings (surroundings.run levels) id node state
          have inside := persists.spans_course stands (fun child found => ih child found) course
          have begun : Spans related state [] (state.note (.started id)) :=
            spans_nil (persists.note state _)
          have closed : Spans related worked [] (worked.note (.finished id outcome)) :=
            spans_nil (persists.note worked _)
          simp only [meets, Surroundings.run, stands, ended]
          simpa using persists.spans_append (persists.spans_append begun inside) closed

/-- Any two moments of an evaluation are related, the earlier to the later. -/
theorem momentsFrom_ordered (persists : surroundings.Persists related) (root : Root)
    (scene : Scene σ) : (surroundings.momentsFrom root scene).Pairwise related := by
  rcases surroundings.evaluateRoot_cases root scene with
    ⟨id, -, -, -, moments⟩ | ⟨_, -, -, moments⟩
  · rw [moments]
    exact (persists.spans_moments _ id _).ordered
  · rw [moments]
    exact .nil

end Persists

end Surroundings

end Stagecraft
