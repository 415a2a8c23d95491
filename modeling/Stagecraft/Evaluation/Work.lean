/-
Module: Stagecraft.Evaluation.Work
Purpose: The work of one node, given how its children are evaluated.
Main exports:
  Ending, Descent, Attempt, Attempt.ask, Attempt.assign, Surroundings.target,
  Surroundings.follow, Surroundings.branch, Surroundings.attempt
-/
import Stagecraft.Evaluation.Comparison
import Stagecraft.Evaluation.Scene
import Stagecraft.Geometry.Motion

namespace Stagecraft

/-!
A node works on the evaluation itself, one step after another.  A parameter that
cannot be read is a fault, which ends the work there and then; what was changed
before it stays changed.  A fault of a child belongs to the child and does not
keep its parent from going on.
-/

/-- What an evaluation comes to: its outcome and the state after it. -/
abbrev Ending (σ : Type) := Outcome × EvalState σ

/-- How a child is evaluated. -/
abbrev Descent (σ : Type) := NodeId → EvalState σ → Ending σ

/-- The count that a number stands for; negative numbers count as zero. -/
def countOf (n : Int32) : Nat := n.toInt.toNat

/-- The index that a number stands for; a negative one is a fault of the
property. -/
def indexOf (property : String) (n : Int32) : Except Fault Nat :=
  if n < 0 then
    .error (.invalidParameter property (Value.displayInt n.toInt ++ " is negative"))
  else .ok n.toInt.toNat

namespace Scene

variable {σ : Type}

/-- The current value of a parameter that may be left out. -/
def readOptional {α : Type} [Accepts α] (scene : Scene σ) :
    Option (Parameter α) → Except Fault (Option α)
  | none => .ok none
  | some parameter => (scene.read parameter).map some

def frameLength (scene : Scene σ) : AnimationSpan → Except Fault FrameLength
  | .once => .ok .once
  | .gameFrames count => (scene.read count).map fun n => .gameFrames (countOf n)
  | .cycles count => (scene.read count).map fun n => .cycles (countOf n)
  | .animationFrames count => (scene.read count).map fun n => .animationFrames (countOf n)

/-- The take-off of a jump; without one the fault of its duration. -/
def jumpProfile (height duration slowFactor : Float32) : Except Fault JumpProfile :=
  match JumpProfile.of? height duration slowFactor with
  | some profile => .ok profile
  | none =>
      .error (.invalidParameter "JUMP_DURATION"
        ("apex time " ++ Number.writeSingle (JumpProfile.apexTimeOf duration slowFactor) ++
          " is not positive"))

end Scene

namespace EvalState

variable {σ : Type}

/-- On firm ground a fall ends: the actor does not move into the ground. -/
def land (state : EvalState σ) : EvalState σ :=
  if 0 < state.velocity .y ∧ state.signals.mayUse .y then state.setVelocity .y 0 else state

end EvalState

/-- Work on an evaluation that is under way.  It may come upon a fault. -/
abbrev Attempt (σ α : Type) := ExceptT Fault (StateM (EvalState σ)) α

namespace Attempt

variable {σ α : Type}

/-- Ask something of the scene as it is now. -/
def ask (question : Scene σ → Except Fault α) : Attempt σ α := do
  ofExcept (question (← get).scene)

def changeActor (change : Actor → Actor) : Attempt σ Unit :=
  modify fun state => state.withActor (change state.scene.actor)

def issue (request : Request) : Attempt σ Unit :=
  modify fun state => state.withScene (state.scene.request request)

/-- Change a variable of the map, or what the actor holds under a name. -/
def assign (mode : SetMode) (name : String) (operand : Value) (isGlobal : Bool) :
    Attempt σ Unit := do
  if isGlobal then
    let next ← ask fun scene => (scene.map.next mode name operand).mapError .variable
    modify fun state =>
      state.withScene { state.scene with map := state.scene.map.insert name next }
  else
    match Quantity.ofName? name with
    | some quantity =>
        match operand.number? with
        | some x =>
            changeActor fun actor =>
              actor.setQuantity quantity (mode.combineNumber (actor.quantity quantity) x)
        | none =>
            throw (.variable
              (.typeMismatch name { expected := "float", found := operand.typeName }))
    | none =>
        let next ← ask fun scene => (scene.actor.store.next mode name operand).mapError .variable
        changeActor fun actor => { actor with store := actor.store.insert name next }

end Attempt

namespace Surroundings

variable {σ : Type} (surroundings : Surroundings σ)

/-- The node that a child leads to.  A variable names it from the namespace of
the referring node. -/
def target (node : Node Edge) (role : Role) (scene : Scene σ) : Edge → Except Fault NodeId
  | .node id => .ok id
  | .variable name =>
      match scene.lookup name with
      | none => .error (.variable (.notFound name))
      | some value =>
          match value.text?.bind fun text =>
              surroundings.graph.resolve? node.home text (isMapOnly node.kind role) with
          | some id => .ok id
          | none => .error (.dynamicTarget name)

def groundDistance (scene : Scene σ) : Float32 :=
  surroundings.support scene.actor.id scene.actor.position

variable (descend : Descent σ) (id : NodeId) (node : Node Edge)

/-- Evaluate a child.  One that leads nowhere is a fault of the referring
node. -/
def follow (role : Role) (edge : Edge) (state : EvalState σ) : Ending σ :=
  let state := state.note (.followed id role)
  match surroundings.target node role state.scene edge with
  | .ok child => descend child state
  | .error fault => (.failure, state.fail node fault)

/-- Evaluate the child for a decision; without one the decision is the
outcome. -/
def branch (decision : Bool) (state : EvalState σ) : Ending σ :=
  match decision, node.children.success, node.children.failure with
  | true, some edge, _ => surroundings.follow descend id node .success edge state
  | false, _, some edge => surroundings.follow descend id node .failure edge state
  | decision, _, _ => (.ofBool decision, state)

/-- Evaluate numbered children one after another until STOP is raised. -/
def runAll : List (Int × Edge) → EvalState σ → EvalState σ
  | [], state => state
  | (key, edge) :: rest, state =>
      let (_, state) := surroundings.follow descend id node (.numbered key) edge state
      if state.signals.stopped then state else runAll rest state

/-- Evaluate numbered children one after another until one of them decides: the
first success of any, or the first failure of all. -/
def decide (mode : SwitchMode) :
    List (Int × Edge) → EvalState σ → Bool × EvalState σ
  | [], state => (mode == .all, state)
  | (key, edge) :: rest, state =>
      match mode, surroundings.follow descend id node (.numbered key) edge state with
      | .any, (.success, state) => (true, state)
      | .all, (.failure, state) => (false, state)
      | _, (_, state) => decide mode rest state

/-- Evaluate the event of a guard that lets the actor pass for the first time.
How the event ends does not matter. -/
def runGuarded (state : EvalState σ) : EvalState σ :=
  match node.children.event with
  | some edge => (surroundings.follow descend id node .event edge state).2
  | none => state

open Attempt (ask changeActor issue assign)

def attempt : Attempt σ Outcome := do
  match node.kind with
  | .accelerate x y xMax yMax =>
      let x ← ask (·.read x)
      let y ← ask (·.read y)
      let xMax ← ask (·.readOptional xMax)
      let yMax ← ask (·.readOptional yMax)
      modify (·.drive .x x fun v => accelerate v x xMax surroundings.time)
      modify (·.drive .y y fun v => accelerate v y yMax surroundings.time)
      return .success
  | .decelerate x y =>
      let x ← ask (·.read x)
      let y ← ask (·.read y)
      modify (·.drive .x x fun v => decelerate v x surroundings.time)
      modify (·.drive .y y fun v => decelerate v y surroundings.time)
      return .success
  | .move =>
      changeActor fun actor =>
        { actor with position := integrate actor.position actor.velocity surroundings.time }
      return .success
  | .fall acceleration maxSpeed animation =>
      let factor ← ask (·.read acceleration)
      let limit ← ask (·.read maxSpeed)
      let distance := surroundings.groundDistance (← get).scene
      modify (·.note (.measured id distance))
      if distance ≤ 0 then modify (·.land)
      else
        modify (·.drive .y factor fun v => accelerate v factor (some limit) surroundings.time)
        modify (·.hint surroundings id animation)
      return .success
  | .jump height duration slowFactor animation =>
      let height ← ask (·.read height)
      let duration ← ask (·.read duration)
      let slowFactor ← ask (·.read slowFactor)
      let profile ← ofExcept (Scene.jumpProfile height duration slowFactor)
      modify (·.propel .y fun _ => -profile.initialSpeed)
      modify (·.hint surroundings id animation)
      return .success
  | .multi =>
      let faults := (← get).faults
      modify (surroundings.runAll descend id node node.children.numbered)
      return .ofBool ((← get).faults.length == faults.length)
  | .setVariable name value mode isGlobal =>
      let operand ← ask (·.read value)
      assign mode name operand isGlobal
      return .success
  | .animate animation direction span =>
      let frames ← ask (·.frameLength span)
      let (progress, scene) :=
        (← get).scene.animate surroundings id animation direction frames
      modify (·.withScene scene)
      match progress with
      | .running => return .success
      | .completed =>
          modify (·.note (.animationCompleted id))
          if node.signal = some .stop then modify (·.stop)
          return .success
  | .sound path =>
      let path ← ask (·.read path)
      issue (.playSound path)
      return .success
  | .playMusic path repetitions fadeIn =>
      let path ← ask (·.read path)
      let repetitions ← ask (·.read repetitions)
      let fadeIn ← ask (·.read fadeIn)
      let fadeIn ← ofExcept (indexOf "FADE IN" fadeIn)
      issue (.playMusic { path, repetitions, fadeIn })
      return .success
  | .rotate degrees absolute =>
      let degrees ← ask (·.read degrees)
      changeActor fun actor =>
        { actor with rotation := if absolute then degrees else actor.rotation + degrees }
      return .success
  | .spawnText text layer style =>
      let text ← ask (·.read text)
      issue <| .spawnText
        { text, layer
          position := (← get).scene.actor.position
          color := style.color
          bold := style.bold
          italic := style.italic
          underline := style.underline }
      return .success
  | .eraseSelf =>
      changeActor fun actor => { actor with isLeaving := true }
      return .success
  | .spawnActor template layer x y name =>
      let x ← ask (·.read x)
      let y ← ask (·.read y)
      let position := (← get).scene.actor.position.add { x, y }
      issue (.spawnActor { template, layer, position, name })
      return .success
  | .setFrame animation direction frame =>
      let frame ← ask (·.read frame)
      let frame ← ofExcept (indexOf "ANIMATION_FRAME" frame)
      changeActor fun actor => { actor with pose := actor.pose.pin animation direction frame }
      return .success
  | .engineWrapper =>
      match node.children.event with
      | some edge => modifyGet (surroundings.follow descend id node .event edge)
      | none => return .failure
  | .onGround tolerance =>
      let tolerance ← ask (·.read tolerance)
      let near := surroundings.groundDistance (← get).scene ≤ tolerance
      modifyGet (surroundings.branch descend id node near)
  | .switch mode =>
      let decision ← modifyGet
        (surroundings.decide descend id node mode node.children.numbered)
      modifyGet (surroundings.branch descend id node decision)
  | .singleGuard =>
      if id ∈ (← get).scene.actor.guards then return .failure
      changeActor fun actor => { actor with guards := actor.guards ++ [id] }
      modify (surroundings.runGuarded descend id node)
      return .success
  | .collision mine other otherName =>
      let hit := surroundings.overlaps (← get).scene.actor.id mine other otherName
      modifyGet (surroundings.branch descend id node hit)
  | .mouseButton query =>
      let button := surroundings.button query.button
      let hit :=
        query.pressed && button.pressed || query.released && button.released ||
          query.down && button.down
      modifyGet (surroundings.branch descend id node hit)
  | .compare left right relations =>
      let left ← ask (·.read left)
      let right ← ask (·.read right)
      let decision ← ofExcept (Value.compare relations left right)
      modifyGet (surroundings.branch descend id node decision)
  | .layerState layer hidden =>
      let layer ← ask (·.read layer)
      issue (.setLayerHidden layer hidden)
      return .success
  | .templateLayer source destination =>
      issue (.instantiateTemplate source destination)
      return .success
  | .changeMap path keepVariables =>
      let path ← ask (·.read path)
      issue (.changeMap path keepVariables)
      return .success
  | .closeMap =>
      issue .closeMap
      return .success
  | .quit =>
      issue .quit
      return .success

end Surroundings

end Stagecraft
