/-
Module: Stagecraft.Proofs.Resemblance
Purpose: The events of an actor depend on the actor, on the variables of the map and on its
  own animations; whatever else has happened in the tick makes no difference to them.
Main exports:
  Surroundings.Heeds, Scene.Resembles, EvalState.Resembles, Heeds.lockstep,
  evaluateNode_resembles
-/
import Stagecraft.Proofs.Lockstep
import Stagecraft.Proofs.Turns

namespace Stagecraft

/-!
Two scenes of one actor may differ in the requests that were issued before and in the states
of animations.  `alike` says which states look the same to the actor.
-/

variable {σ : Type}

/-! ### Scenes that look the same to their actor -/

/-- The same scene with other requests and another state of animations. -/
def Scene.recast (scene : Scene σ) (requests : List Request) (animation : σ) : Scene σ :=
  { scene with requests, animation }

/-- The same evaluation on the scene with other requests and another state of animations. -/
def EvalState.recast (state : EvalState σ) (requests : List Request) (animation : σ) :
    EvalState σ :=
  { state with scene := state.scene.recast requests animation }

/-- A controller that answers the requests of an actor in the same way in states that are
alike, and keeps them alike. -/
def Surroundings.Heeds (surroundings : Surroundings σ) (number : ActorId)
    (alike : σ → σ → Prop) : Prop :=
  ∀ one two : σ, alike one two → ∀ (node : NodeId) (request : AnimationRequest),
    (surroundings.animate two (number, node) request).1 =
        (surroundings.animate one (number, node) request).1 ∧
      alike (surroundings.animate one (number, node) request).2
        (surroundings.animate two (number, node) request).2

section Relations

variable (number : ActorId) (alike : σ → σ → Prop)

/-- Scenes of one actor that look the same to it. -/
structure Scene.Resembles (scene other : Scene σ) : Prop where
  mine : scene.actor.id = number
  looks : alike scene.animation other.animation
  same : other = scene.recast other.requests other.animation

/-- Evaluations that differ in such scenes alone. -/
structure EvalState.Resembles (state other : EvalState σ) : Prop where
  mine : state.scene.actor.id = number
  looks : alike state.scene.animation other.scene.animation
  same : other = state.recast other.scene.requests other.scene.animation

end Relations

variable {surroundings : Surroundings σ} {number : ActorId} {alike : σ → σ → Prop}

/-- What changes the actor alone, and not its number, leaves such scenes behind. -/
theorem Scene.Resembles.changeActor {scene other : Scene σ}
    (resembles : scene.Resembles number alike other) (change : Actor → Actor)
    (mine : ∀ actor, (change actor).id = actor.id) :
    ({ scene with actor := change scene.actor } : Scene σ).Resembles number alike
      { other with actor := change other.actor } where
  mine := (mine _).trans resembles.mine
  looks := resembles.looks
  same := congrArg (fun scene : Scene σ => { scene with actor := change scene.actor })
    resembles.same

/-! ### Evaluations -/

namespace EvalState.Resembles

variable {state other : EvalState σ}

/-- Evaluations of scenes that resemble each other begin in states that do. -/
theorem begin {scene sceneOther : Scene σ} (resembles : scene.Resembles number alike sceneOther)
    (locks : AxisLocks) :
    (EvalState.begin scene locks).Resembles number alike (EvalState.begin sceneOther locks) :=
  ⟨resembles.mine, resembles.looks, congrArg (EvalState.begin · locks) resembles.same⟩

/-- States that resemble each other differ in the requests and the animations only. -/
theorem exists_recast (resembles : state.Resembles number alike other) :
    ∃ requests animation, other = state.recast requests animation :=
  ⟨_, _, resembles.same⟩

end EvalState.Resembles

namespace Surroundings

/-- Evaluations that look the same to their actor go on to do so. -/
theorem Heeds.lockstep (heeds : surroundings.Heeds number alike) :
    surroundings.Lockstep (.refl NodeId) surroundings (EvalState.Resembles number alike) where
  graph := .refl _
  maxDepth := rfl
  time := rfl
  overlaps := rfl
  support := rfl
  button := rfl
  actor same := by
    obtain ⟨requests, animation, rfl⟩ := same.exists_recast
    exact (Actor.renumber_refl _).symm
  map same := by
    obtain ⟨requests, animation, rfl⟩ := same.exists_recast
    rfl
  signals same := by
    obtain ⟨requests, animation, rfl⟩ := same.exists_recast
    rfl
  added before after := by
    obtain ⟨_, _, rfl⟩ := before.exists_recast
    obtain ⟨_, _, rfl⟩ := after.exists_recast
    exact .rfl
  note same entry := by
    rw [JournalEntry.renumber_refl]
    exact { same with same := congrArg (EvalState.note · entry) same.same }
  fail same node fault := { same with same := congrArg (EvalState.fail · node fault) same.same }
  signal same signals :=
    { same with same := congrArg (fun state : EvalState σ => { state with signals }) same.same }
  withActor same actor mine := by
    rw [Actor.renumber_refl]
    exact ⟨mine.trans same.mine, same.looks, congrArg (EvalState.withActor · actor) same.same⟩
  withMap same map := by
    obtain ⟨requests, animation, rfl⟩ := same.exists_recast
    exact ⟨same.mine, same.looks, rfl⟩
  request same request := by
    obtain ⟨requests, animation, rfl⟩ := same.exists_recast
    exact ⟨same.mine, same.looks, rfl⟩
  progress same node kind direction frames := by
    obtain ⟨requests, animation, rfl⟩ := same.exists_recast
    have asked := heeds _ _ same.looks node
    rw [← same.mine] at asked
    exact (asked _).1
  animate same node kind direction frames := by
    obtain ⟨requests, animation, rfl⟩ := same.exists_recast
    have asked := heeds _ _ same.looks node
    rw [← same.mine] at asked
    exact ⟨same.mine, (asked _).2, rfl⟩

/-- An event comes to the same on scenes that look the same, and they look the same
afterwards. -/
theorem evaluateNode_resembles (heeds : surroundings.Heeds number alike) (id : NodeId)
    (locks : AxisLocks) {scene other : Scene σ} (same : scene.Resembles number alike other) :
    (surroundings.evaluateNode id locks other).1 = (surroundings.evaluateNode id locks scene).1 ∧
      (surroundings.evaluateNode id locks scene).2.Resembles number alike
        (surroundings.evaluateNode id locks other).2 := by
  have ran : Ending.Related (EvalState.Resembles number alike)
      (surroundings.run (surroundings.maxDepth + 1) id (.begin scene locks))
      (surroundings.run (surroundings.maxDepth + 1) id (.begin other locks)) :=
    heeds.lockstep.run_related (surroundings.maxDepth + 1) id _ _ (.begin same locks)
  obtain ⟨outcome, mine, looks, ended⟩ := ran
  simp only [evaluateNode]
  refine ⟨?_, mine, looks, congrArg EvalState.scene ended⟩
  rw [outcome, ended]
  rfl

end Surroundings

end Stagecraft
