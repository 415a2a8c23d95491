/-
Module: Stagecraft.Evaluation.KeyDispatch
Purpose: What the keys of one tick make an actor do.
Main exports:
  Call, DispatchReport, Dispatched, RankedPass, Surroundings.invoke,
  Surroundings.release, Surroundings.handle, Surroundings.sustain,
  Surroundings.dispatch
-/
import Stagecraft.Evaluation.Run

namespace Stagecraft

/-!
A dispatch goes through the bindings of a template in order.  A binding to an
edge of its key runs its event there and then.  A sustained binding begins its
action when the key goes down and ends it when the key goes up.  After that the
events of all sustained actions run by rank, and what one of them drives is out
of bounds for those behind it.  An event that raises STOP cancels its action.

A key that goes down and up within one tick still runs its event once; its
action ends behind the others.
-/

/-- Why a dispatch runs an event: for an edge of a key, for the action of a key
in its turn by rank, or for the end of that action. -/
inductive CallReason where
  | edge (key : KeyName)
  | held (key : KeyName)
  | ended (key : KeyName)
deriving Repr, DecidableEq, Inhabited

/-- An event that a dispatch ran, and what came of it. -/
structure Call where
  reason : CallReason
  event : NodeId
  evaluation : Evaluation
deriving Inhabited

/-- What one dispatch did: the events it ran in order, stop events included,
the keys whose actions ended with a release, and those whose actions were
cancelled by STOP. -/
structure DispatchReport where
  calls : List Call := []
  released : List KeyName := []
  cancelled : List KeyName := []
deriving Inhabited

namespace DispatchReport

def invoked (report : DispatchReport) : List NodeId := report.calls.map Call.event

def faults (report : DispatchReport) : List NodeFault :=
  report.calls.flatMap fun call => call.evaluation.faults

def add (report : DispatchReport) (call : Call) : DispatchReport :=
  { report with calls := report.calls ++ [call] }

end DispatchReport

/-- A dispatch under way. -/
structure Dispatched (σ : Type) where
  scene : Scene σ
  report : DispatchReport := {}

namespace Dispatched

variable {σ : Type}

def withSustained (state : Dispatched σ) (sustained : SustainedActions) : Dispatched σ :=
  { state with scene.actor.sustained := sustained }

def sustained (state : Dispatched σ) : SustainedActions := state.scene.actor.sustained

def finish (state : Dispatched σ) (key : KeyName) : Dispatched σ :=
  let ended := state.withSustained (state.sustained.remove key)
  { ended with report.released := ended.report.released ++ [key] }

def cancel (state : Dispatched σ) (key : KeyName) : Dispatched σ :=
  let cancelled := state.withSustained (state.sustained.remove key)
  { cancelled with report.cancelled := cancelled.report.cancelled ++ [key] }

end Dispatched

/-- The pass through the sustained actions by rank, under way: the dispatch so
far, and the axes that the actions so far hold. -/
structure RankedPass (σ : Type) where
  state : Dispatched σ
  locks : AxisLocks := {}

/-- Whether a binding runs its event for what its key does. -/
def KeyBinding.fires (binding : KeyBinding) (edge : KeyEdge) : Bool :=
  binding.down && edge.pressed || binding.up && edge.released

/-- Whether a binding is to a key that goes down and up within the tick. -/
def KeyBinding.isTapped (binding : KeyBinding) (keys : KeyName → KeyEdge) : Bool :=
  let edge := keys binding.key
  binding.event.isSome && binding.sustained && edge.pressed && edge.released

namespace Surroundings

variable {σ : Type} (surroundings : Surroundings σ)

def invoke (reason : CallReason) (event : NodeId) (locks : AxisLocks)
    (state : Dispatched σ) : Evaluation × Dispatched σ :=
  let (evaluation, scene) := surroundings.evaluateNode event locks state.scene
  (evaluation, { scene, report := state.report.add { reason, event, evaluation } })

/-- End the action of a key, if it has one, and run its stop event. -/
def release (key : KeyName) (state : Dispatched σ) : Dispatched σ :=
  match state.sustained.find? key with
  | none => state
  | some action =>
      match action.stopEvent with
      | none => state.finish key
      | some event => (surroundings.invoke (.ended key) event {} (state.finish key)).2

/-- Begin the action of a sustained binding unless its key has one. -/
def engage (binding : KeyBinding) (event : NodeId) (state : Dispatched σ) : Dispatched σ :=
  if state.sustained.isActive binding.key then state
  else state.withSustained (state.sustained.activate binding event)

/-- What the key of a sustained binding does to its action. -/
def handleSustained (binding : KeyBinding) (event : NodeId) (edge : KeyEdge)
    (state : Dispatched σ) : Dispatched σ :=
  let state := if edge.pressed then engage binding event state else state
  if edge.released && !edge.pressed then surroundings.release binding.key state else state

/-- What a binding does for what its key does. -/
def handle (keys : KeyName → KeyEdge) (state : Dispatched σ) (binding : KeyBinding) :
    Dispatched σ :=
  let edge := keys binding.key
  match binding.event with
  | none => state
  | some event =>
      if binding.sustained then surroundings.handleSustained binding event edge state
      else if binding.fires edge then
        (surroundings.invoke (.edge binding.key) event {} state).2
      else state

/-- Let all bindings of a template handle what their keys do. -/
def handleAll (template : Template) (keys : KeyName → KeyEdge) (scene : Scene σ) :
    Dispatched σ :=
  template.bindings.foldl (surroundings.handle keys) { scene }

/-- Run the event of a sustained action within the axes that the actions before
it left free.  STOP cancels the action. -/
def sustainOne (pass : RankedPass σ) (entry : KeyName × SustainedAction) : RankedPass σ :=
  let (key, action) := entry
  let (evaluation, state) := surroundings.invoke (.held key) action.event pass.locks pass.state
  { state := if evaluation.stopRaised then state.cancel key else state
    locks := evaluation.locks }

/-- Run the events of some sustained actions one after another. -/
def sustain (entries : List (KeyName × SustainedAction)) (state : Dispatched σ) :
    RankedPass σ :=
  entries.foldl surroundings.sustainOne { state }

/-- End the actions of the keys that went down and up within the tick. -/
def releaseTaps (template : Template) (keys : KeyName → KeyEdge) (state : Dispatched σ) :
    Dispatched σ :=
  let tapped := template.bindings.filter fun binding => binding.isTapped keys
  tapped.foldl (fun state binding => surroundings.release binding.key state) state

/-- Let the keys of one tick act on the actor of a scene. -/
def dispatch (template : Template) (keys : KeyName → KeyEdge) (scene : Scene σ) :
    DispatchReport × Scene σ :=
  let state := surroundings.handleAll template keys scene
  let state := (surroundings.sustain state.sustained.ranked state).state
  let state := surroundings.releaseTaps template keys state
  (state.report, state.scene)

end Surroundings

end Stagecraft
