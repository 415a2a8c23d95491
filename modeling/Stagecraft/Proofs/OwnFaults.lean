/-
Module: Stagecraft.Proofs.OwnFaults
Purpose: A node that works, or looks for a child, comes upon faults of its own only:
  none of them is that the limit on the depth is exceeded.
Main exports:
  Fault.IsOwn, OwnFaults, Surroundings.target_ownFaults, Surroundings.work_ownFaults
-/
import Stagecraft.Proofs.Atomicity

namespace Stagecraft

variable {σ α β : Type}

/-- A fault that does not depend on how deep its node is nested. -/
def Fault.IsOwn (fault : Fault) : Prop := ∀ limit, fault ≠ .depthExceeded limit

/-- A computation with no other faults. -/
def OwnFaults (computation : Except Fault α) : Prop :=
  ∀ fault, computation = .error fault → fault.IsOwn

namespace OwnFaults

theorem ok (value : α) : OwnFaults (.ok value) := by
  intro fault failed
  cases failed

theorem error {fault : Fault} (own : fault.IsOwn) : OwnFaults (.error fault : Except Fault α) := by
  intro other failed
  cases failed
  exact own

theorem bind {first : Except Fault α} {next : α → Except Fault β} (one : OwnFaults first)
    (two : ∀ value, OwnFaults (next value)) : OwnFaults (first >>= next) := by
  cases first with
  | error fault => exact error (one fault rfl)
  | ok value => exact two value

theorem map {first : Except Fault α} (one : OwnFaults first) (f : α → β) :
    OwnFaults (first.map f) := by
  cases first with
  | error fault => exact error (one fault rfl)
  | ok value => exact ok (f value)

theorem ofVariable (computation : Except VariableError α) :
    OwnFaults (computation.mapError .variable) := by
  cases computation with
  | error problem => exact error nofun
  | ok value => exact ok value

end OwnFaults

theorem indexOf_ownFaults (property : String) (n : Int32) : OwnFaults (indexOf property n) := by
  unfold indexOf
  split
  · exact .error nofun
  · exact .ok _

/-- A comparison that is at fault is so by its values. -/
theorem Value.compare_ownFaults (relations : Relations) (left right : Value) :
    OwnFaults (Value.compare relations left right) := by
  unfold Value.compare
  repeat' split
  all_goals first | exact .ok _ | exact .error nofun

namespace Scene

variable (scene : Scene σ)

theorem read_ownFaults [Accepts α] (parameter : Parameter α) : OwnFaults (scene.read parameter) :=
  .ofVariable _

/-- A parameter that is left out cannot be at fault. -/
theorem readOptional_ownFaults [Accepts α] (parameter : Option (Parameter α)) :
    OwnFaults (scene.readOptional parameter) := by
  cases parameter with
  | none => exact .ok none
  | some parameter => exact (scene.read_ownFaults parameter).map some

theorem frameLength_ownFaults (span : AnimationSpan) : OwnFaults (scene.frameLength span) := by
  cases span with
  | once => exact .ok FrameLength.once
  | gameFrames count | cycles count | animationFrames count =>
      exact (scene.read_ownFaults count).map _

theorem jumpProfile_ownFaults (height duration slowFactor : Float32) :
    OwnFaults (jumpProfile height duration slowFactor) := by
  unfold jumpProfile
  split
  · exact .ok _
  · exact .error nofun

theorem changeVariable_ownFaults (mode : SetMode) (name : String) (operand : Value)
    (isGlobal : Bool) : OwnFaults (scene.changeVariable mode name operand isGlobal) := by
  unfold changeVariable
  split <;> exact (OwnFaults.ofVariable _).map _

end Scene

namespace Surroundings

variable (surroundings : Surroundings σ) (descend : Descent σ) (id : NodeId) (node : Node Edge)

/-- The target of an edge is at fault for its name, never for the depth. -/
theorem target_ownFaults (role : Role) (scene : Scene σ) (edge : Edge) :
    OwnFaults (surroundings.target node role scene edge) := by
  unfold target
  repeat' split
  all_goals first | exact .ok _ | exact .error nofun

/-- The faults of the work of a node are its own.  Those of its children are in the
state. -/
theorem work_ownFaults (state : EvalState σ) :
    OwnFaults (surroundings.work descend id node state) := by
  have read {α : Type} [Accepts α] (parameter : Parameter α) :=
    state.scene.read_ownFaults parameter
  unfold work
  -- Only readings and computations can be at fault, and none of them asks for the depth.
  cases node.kind with
  | accelerate x y xMax yMax =>
      exact .bind (read x) fun _ => .bind (read y) fun _ =>
        .bind (state.scene.readOptional_ownFaults xMax) fun _ =>
          .bind (state.scene.readOptional_ownFaults yMax) fun _ => .ok _
  | decelerate x y => exact .bind (read x) fun _ => .bind (read y) fun _ => .ok _
  | fall acceleration maxSpeed animation =>
      refine .bind (read acceleration) fun factor => .bind (read maxSpeed) fun limit => ?_
      dsimp only
      split <;> exact .ok _
  | jump height duration slowFactor animation =>
      exact .bind (read height) fun _ => .bind (read duration) fun _ =>
        .bind (read slowFactor) fun _ => .bind (Scene.jumpProfile_ownFaults _ _ _) fun _ => .ok _
  | setVariable name value mode isGlobal =>
      exact .bind (read value) fun _ =>
        .bind (state.scene.changeVariable_ownFaults _ _ _ _) fun _ => .ok _
  | animate animation direction span =>
      refine .bind (state.scene.frameLength_ownFaults span) fun frames => ?_
      dsimp only
      repeat' split
      all_goals exact .ok _
  | playMusic path repetitions fadeIn =>
      exact .bind (read path) fun _ => .bind (read repetitions) fun _ =>
        .bind (read fadeIn) fun _ => .bind (indexOf_ownFaults _ _) fun _ => .ok _
  | setFrame animation direction frame =>
      exact .bind (read frame) fun _ => .bind (indexOf_ownFaults _ _) fun _ => .ok _
  | sound parameter | rotate parameter | spawnText parameter | onGround parameter
  | layerState parameter | changeMap parameter => exact .bind (read parameter) fun _ => .ok _
  | spawnActor template layer x y name =>
      exact .bind (read x) fun _ => .bind (read y) fun _ => .ok _
  | compare left right relations =>
      exact .bind (read left) fun _ => .bind (read right) fun _ =>
        .bind (Value.compare_ownFaults _ _ _) fun _ => .ok _
  | engineWrapper => cases node.children.event <;> exact .ok _
  | singleGuard =>
      dsimp only
      split <;> exact .ok _
  | _ => exact .ok _

end Surroundings

end Stagecraft
