/-
Module: Stagecraft.Evaluation.Scene
Purpose: What an evaluation sees, what it changes, and the record it leaves.
Main exports:
  Outcome, Surroundings, Scene, JournalEntry, EvalState
-/
import Stagecraft.Actor.Basic
import Stagecraft.Evaluation.Fault
import Stagecraft.Evaluation.Request
import Stagecraft.Evaluation.Signals
import Stagecraft.Graph.Behavior

namespace Stagecraft

/-- How a node ends. -/
inductive Outcome where
  | success
  | failure
deriving Repr, DecidableEq, Inhabited

def Outcome.ofBool : Bool → Outcome
  | true => .success
  | false => .failure

/-- Everything that an evaluation asks and does not change: the graph, the
bound on nested nodes, the length of the tick, contacts, the ground, pointer
buttons, and how a controller with states `σ` answers requests for
animations. -/
structure Surroundings (σ : Type) where
  graph : BehaviorGraph
  maxDepth : Nat
  time : Float32
  overlaps : ActorId → String → String → Option String → Bool
  support : ActorId → Vec2 → Float32
  button : Nat → ButtonState
  animate : σ → RunKey → AnimationRequest → Progress × σ

/-- Everything that an evaluation changes: the actor, the variables of the map,
the requests issued so far, and the states of animations. -/
structure Scene (σ : Type) where
  actor : Actor
  map : VariableStore
  requests : List Request
  animation : σ

namespace Scene

variable {σ : Type}

/-- What a name means to the events of the actor. -/
def lookup (scene : Scene σ) (name : String) : Option Value :=
  scene.actor.lookup scene.map name

/-- The current value of a parameter. -/
def read {α : Type} [Accepts α] (scene : Scene σ) (parameter : Parameter α) :
    Except Fault α :=
  (parameter.resolve scene.lookup).mapError .variable

def request (scene : Scene σ) (request : Request) : Scene σ :=
  { scene with requests := scene.requests ++ [request] }

/-- Change the pose of the actor and ask for the animation it now shows. -/
def animate (scene : Scene σ) (surroundings : Surroundings σ) (node : NodeId)
    (kind : AnimationKind) (direction : Direction) (frames : FrameLength) :
    Progress × Scene σ :=
  let actor := { scene.actor with pose := scene.actor.pose.change kind direction }
  let (progress, animation) :=
    surroundings.animate scene.animation (actor.id, node)
      { kind := actor.pose.kind, direction := actor.pose.direction, frames }
  (progress, { scene with actor, animation })

end Scene

/-- What happened during an evaluation: a node began its work, followed the
child of a role, was told that its animation is complete, measured how far a
fall may still go, or ended; or a number was met that no node of the graph
has. -/
inductive JournalEntry where
  | started (node : NodeId)
  | followed (node : NodeId) (role : Role)
  | animationCompleted (node : NodeId)
  | measured (node : NodeId) (distance : Float32)
  | finished (node : NodeId) (outcome : Outcome)
  | stray (id : NodeId)
deriving Repr, DecidableEq, Inhabited

/-- An evaluation under way: the scene, the signals, the faults in the order
of their appearance, and the journal with the latest entry first.  Nothing is
decided by the journal. -/
structure EvalState (σ : Type) where
  scene : Scene σ
  signals : Signals
  faults : List NodeFault
  journal : List JournalEntry

namespace EvalState

variable {σ : Type}

def begin (scene : Scene σ) (locks : AxisLocks) : EvalState σ :=
  { scene, signals := .inheriting locks, faults := [], journal := [] }

def note (state : EvalState σ) (entry : JournalEntry) : EvalState σ :=
  { state with journal := entry :: state.journal }

def fail (state : EvalState σ) (node : Node Edge) (fault : Fault) : EvalState σ :=
  { state with faults := state.faults ++ [{ node := node.name, fault }] }

def stop (state : EvalState σ) : EvalState σ :=
  { state with signals := state.signals.stop }

def withScene (state : EvalState σ) (scene : Scene σ) : EvalState σ := { state with scene }

def withActor (state : EvalState σ) (actor : Actor) : EvalState σ :=
  state.withScene { state.scene with actor }

def velocity (state : EvalState σ) : Axis → Float32
  | .x => state.scene.actor.velocity.x
  | .y => state.scene.actor.velocity.y

def setVelocity (state : EvalState σ) (axis : Axis) (v : Float32) : EvalState σ :=
  state.withActor (state.scene.actor.setQuantity (if axis = .x then .xSpeed else .ySpeed) v)

/-- Claim an axis for the rest of the tick. -/
def claim (state : EvalState σ) (axis : Axis) : EvalState σ :=
  { state with signals := state.signals.claim axis }

/-- Change the velocity along an axis and claim it.  Nothing happens when the
axis is out of bounds. -/
def propel (state : EvalState σ) (axis : Axis) (change : Float32 → Float32) : EvalState σ :=
  if state.signals.mayUse axis then
    (state.setVelocity axis (change (state.velocity axis))).claim axis
  else state

/-- Propel the actor by a factor; a factor of zero leaves the axis free. -/
def drive (state : EvalState σ) (axis : Axis) (factor : Float32)
    (change : Float32 → Float32) : EvalState σ :=
  if factor == 0 then state else state.propel axis change

/-- Show an animation as long as nothing else is shown, unless the kind is
`none`. -/
def hint (state : EvalState σ) (surroundings : Surroundings σ) (node : NodeId)
    (kind : AnimationKind) : EvalState σ :=
  if kind = .none then state
  else state.withScene (state.scene.animate surroundings node kind .current .continuous).2

end EvalState

end Stagecraft
