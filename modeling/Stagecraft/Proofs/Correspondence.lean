/-
Module: Stagecraft.Proofs.Correspondence
Purpose: Scenes and surroundings that differ in the numbers of nodes alone: evaluations of
  the same node give the same report there, up to the numbers.
Main exports:
  Evaluation.renumber, Controller.renumber, Scene.Corresponds, EvalState.Corresponds,
  Surroundings.Corresponds, evaluate_corresponds, rehearsal_corresponds
-/
import Stagecraft.Proofs.Lockstep

namespace Stagecraft

/-!
Actors remember numbers in their guards and sustained actions, and running animations in
their keys.  What corresponds is equal up to these numbers; how the states of animations
correspond is left to whoever runs them.
-/

variable {σ τ : Type} (rename : NodeId ≃ NodeId) (alike : σ → τ → Prop)

def Evaluation.renumber (evaluation : Evaluation) : Evaluation :=
  { evaluation with journal := evaluation.journal.map (JournalEntry.renumber rename) }

/-! ### Corresponding states and surroundings -/

/-- Scenes that differ in numbers alone; `alike` says which states of animations do. -/
structure Scene.Corresponds (scene : Scene σ) (other : Scene τ) : Prop where
  actor : other.actor = scene.actor.renumber rename
  map : other.map = scene.map
  requests : other.requests = scene.requests
  animation : alike scene.animation other.animation

/-- States of evaluations that differ in numbers alone. -/
structure EvalState.Corresponds (state : EvalState σ) (other : EvalState τ) : Prop where
  scene : state.scene.Corresponds rename alike other.scene
  signals : other.signals = state.signals
  faults : other.faults = state.faults
  journal : other.journal = state.journal.map (JournalEntry.renumber rename)

/-- Surroundings of which the same is asked under different numbers, and that answer the
same and keep the states of animations alike.  Nothing is said about their graphs. -/
structure Surroundings.Corresponds (surroundings : Surroundings σ) (other : Surroundings τ) :
    Prop where
  maxDepth : other.maxDepth = surroundings.maxDepth
  time : other.time = surroundings.time
  overlaps : other.overlaps = surroundings.overlaps
  support : other.support = surroundings.support
  button : other.button = surroundings.button
  progress : ∀ {one : σ} {two : τ}, alike one two → ∀ (actor : ActorId) (node : NodeId) request,
    (other.animate two (actor, rename node) request).1 =
      (surroundings.animate one (actor, node) request).1
  animation : ∀ {one : σ} {two : τ}, alike one two → ∀ (actor : ActorId) (node : NodeId) request,
    alike (surroundings.animate one (actor, node) request).2
      (other.animate two (actor, rename node) request).2

variable {rename alike}

/-! ### Evaluations -/

namespace EvalState.Corresponds

variable {state : EvalState σ} {other : EvalState τ}

theorem begin {scene : Scene σ} {sceneOther : Scene τ}
    (same : scene.Corresponds rename alike sceneOther) (locks : AxisLocks) :
    (EvalState.begin scene locks).Corresponds rename alike (EvalState.begin sceneOther locks) :=
  ⟨same, rfl, rfl, rfl⟩

/-- States correspond again when corresponding scenes take the place of theirs. -/
theorem withScene (same : state.Corresponds rename alike other) {scene : Scene σ}
    {sceneOther : Scene τ} (scenes : scene.Corresponds rename alike sceneOther) :
    (state.withScene scene).Corresponds rename alike (other.withScene sceneOther) :=
  { same with scene := scenes }

end EvalState.Corresponds

namespace Surroundings

variable {surroundings : Surroundings σ} {others : Surroundings τ}

/-- Evaluations that correspond go on to do so. -/
theorem Corresponds.lockstep (graphs : surroundings.graph.Renumbered rename others.graph)
    (asks : surroundings.Corresponds rename alike others) :
    surroundings.Lockstep rename others (EvalState.Corresponds rename alike) where
  graph := graphs
  maxDepth := asks.maxDepth
  time := asks.time
  overlaps := asks.overlaps
  support := asks.support
  button := asks.button
  actor same := same.scene.actor
  map same := same.scene.map
  signals same := same.signals
  added same after := by rw [same.faults, after.faults]
  note same entry :=
    { same with journal := by simp only [EvalState.note, same.journal, List.map_cons] }
  fail same node fault :=
    { same with faults := congrArg (· ++ [_]) same.faults }
  signal same signals := { same with signals := rfl }
  withActor same actor _ := same.withScene { same.scene with actor := rfl }
  withMap same map := same.withScene { same.scene with map := rfl }
  request same request :=
    same.withScene { same.scene with requests := congrArg (· ++ [request]) same.scene.requests }
  progress same node kind direction frames := by
    simp only [Scene.animate, same.scene.actor]
    exact asks.progress same.scene.animation _ _ _
  animate same node kind direction frames := by
    simp only [Scene.animate, same.scene.actor]
    exact same.withScene
      { same.scene with
        actor := rfl
        animation := asks.animation same.scene.animation _ _ _ }

/-- The evaluation of a node gives the same report under the other numbers, and leaves
corresponding scenes behind. -/
theorem evaluateNode_corresponds (graphs : surroundings.graph.Renumbered rename others.graph)
    (asks : surroundings.Corresponds rename alike others) (id : NodeId) (locks : AxisLocks)
    {scene : Scene σ} {other : Scene τ} (same : scene.Corresponds rename alike other) :
    (others.evaluateNode (rename id) locks other).1 =
        (surroundings.evaluateNode id locks scene).1.renumber rename ∧
      (surroundings.evaluateNode id locks scene).2.Corresponds rename alike
        (others.evaluateNode (rename id) locks other).2 := by
  have ended := (asks.lockstep graphs).run_related (surroundings.maxDepth + 1) id _ _
    (.begin same locks)
  simp only [evaluateNode, asks.maxDepth]
  refine ⟨?_, ended.state.scene⟩
  simp only [ended.outcome, ended.state.signals, ended.state.faults, ended.state.journal]
  rfl

/-- So does the evaluation of the node of a name. -/
theorem evaluate_corresponds (graphs : surroundings.graph.Renumbered rename others.graph)
    (asks : surroundings.Corresponds rename alike others) (root : String)
    {scene : Scene σ} {other : Scene τ} (same : scene.Corresponds rename alike other) :
    (others.evaluate root other).1 = (surroundings.evaluate root scene).1.renumber rename ∧
      (surroundings.evaluate root scene).2.Corresponds rename alike
        (others.evaluate root other).2 := by
  have home : (scene.actor.renumber rename).home = scene.actor.home := rfl
  simp only [evaluate, same.actor, home, graphs.resolve?_eq]
  cases surroundings.graph.resolve? scene.actor.home root false with
  | none => exact ⟨rfl, same⟩
  | some id => exact evaluateNode_corresponds graphs asks id {} same

end Surroundings

/-! ### Controllers of animations -/

variable (rename)

def AnimationRuns.renumber (animations : AnimationRuns) : AnimationRuns :=
  { animations with
    runs := animations.runs.map fun (key, run) => ((key.1, rename key.2), run) }

def Controller.renumber : Controller → Controller
  | .instant requests => .instant requests
  | .timed runs => .timed (runs.renumber rename)

variable {rename}

namespace AnimationRuns

variable (runs : List (RunKey × AnimationRun)) (actor : ActorId) (node : NodeId)

theorem renamed_eq_iff {key : RunKey} :
    ((key.1, rename key.2) : RunKey) = (actor, rename node) ↔ key = (actor, node) := by
  rw [Prod.mk.injEq, rename.injective.eq_iff, Prod.ext_iff]

/-- The run of an actor at a node is found under the new number of the node. -/
theorem lookup_renumber :
    (runs.map fun (key, run) => (((key.1, rename key.2) : RunKey), run)).lookup
        (actor, rename node) = runs.lookup (actor, node) := by
  induction runs with
  | nil => rfl
  | cons entry rest ih =>
      rcases entry with ⟨key, run⟩
      rw [List.map_cons, List.lookup_cons, List.lookup_cons, ih]
      simp only [beq_eq_decide, eq_comm (a := (actor, rename node)), eq_comm (a := (actor, node)),
        renamed_eq_iff]

theorem filter_renumber :
    (runs.map fun (key, run) => (((key.1, rename key.2) : RunKey), run)).filter
        (fun entry => entry.1 != (actor, rename node)) =
      (runs.filter fun entry => entry.1 != (actor, node)).map
        fun (key, run) => ((key.1, rename key.2), run) := by
  rw [List.filter_map]
  congr 2
  funext entry
  simp only [Function.comp_apply, bne, beq_eq_decide, renamed_eq_iff]

theorem store_renumber (run : AnimationRun) :
    store (actor, rename node) run
        (runs.map fun (key, run) => (((key.1, rename key.2) : RunKey), run)) =
      (store (actor, node) run runs).map fun (key, run) => ((key.1, rename key.2), run) := by
  induction runs with
  | nil => rfl
  | cons entry rest ih =>
      rcases entry with ⟨key, old⟩
      simp only [List.map_cons, store, renamed_eq_iff, ih]
      split <;> rfl

/-- A request under the other number comes just as far, and leaves the other numbers of the
same animations. -/
theorem request_renumber (animations : AnimationRuns) (request : AnimationRequest) :
    (animations.renumber rename).request (actor, rename node) request =
      ((animations.request (actor, node) request).1,
        (animations.request (actor, node) request).2.renumber rename) := by
  have duration : (animations.renumber rename).duration? request.frames =
      animations.duration? request.frames := by
    cases request.frames <;> rfl
  have found : (animations.renumber rename).find? (actor, rename node) =
      animations.find? (actor, node) := lookup_renumber animations.runs actor node
  simp only [AnimationRuns.request, duration, found]
  cases animations.duration? request.frames with
  | none => cases request.frames.isHint <;> rfl
  | some ticks =>
      dsimp only
      split
      · simp only [renumber, filter_renumber]
      · simp only [renumber, store_renumber]

end AnimationRuns

/-- A request for an animation is answered alike under the new number of its node. -/
theorem Controller.request_renumber (controller : Controller) (actor : ActorId) (node : NodeId)
    (request : AnimationRequest) :
    (controller.renumber rename).request (actor, rename node) request =
      ((controller.request (actor, node) request).1,
        (controller.request (actor, node) request).2.renumber rename) := by
  cases controller with
  | instant requests => rfl
  | timed runs => simp only [renumber, Controller.request, runs.request_renumber]

/-- Stand-ins with the same answers correspond, with controllers that differ in numbers
alone. -/
theorem rehearsal_corresponds (graph other : BehaviorGraph) (maxDepth : Nat) (time : Float32)
    (contacts : Contacts) (buttons : List ButtonState) :
    (rehearsal graph maxDepth time contacts buttons).Corresponds rename
      (fun one two => two = Controller.renumber rename one)
      (rehearsal other maxDepth time contacts buttons) where
  maxDepth := rfl
  time := rfl
  overlaps := rfl
  support := rfl
  button := rfl
  progress := by
    rintro one - rfl actor node request
    simp only [rehearsal, one.request_renumber]
  animation := by
    rintro one - rfl actor node request
    simp only [rehearsal, one.request_renumber]

end Stagecraft
