/-
Module: Stagecraft.Evaluation.Rehearsal
Purpose: Evaluations without a stage: stand-ins for contacts, ground, pointer
  and animations.
Main exports:
  Contacts, Controller, pointerOf, rehearsal
-/
import Stagecraft.Evaluation.Scene

namespace Stagecraft

/-- Contacts and ground: the same answers always, or those of a snapshot. -/
inductive Contacts where
  | fixed (overlapping : Bool := false) (support : Float32 := Snapshot.infinity)
  | snapshot (snapshot : Snapshot)
deriving Inhabited

namespace Contacts

def overlaps : Contacts → ActorId → String → String → Option String → Bool
  | fixed overlapping _ => fun _ _ _ _ => overlapping
  | snapshot bodies => bodies.overlaps

/-- The distance from the ground. -/
def support : Contacts → ActorId → Vec2 → Float32
  | fixed _ distance => fun _ _ => distance
  | snapshot bodies => bodies.supportDistance

end Contacts

/-- Animations that are complete as soon as they are asked for, with the
requests so far; or timed ones. -/
inductive Controller where
  | instant (requests : List (ActorId × AnimationRequest) := [])
  | timed (runs : AnimationRuns)
deriving Inhabited

namespace Controller

def request (controller : Controller) (key : RunKey) (request : AnimationRequest) :
    Progress × Controller :=
  match controller with
  | instant requests =>
      (if request.frames.isHint then .running else .completed,
        instant (requests ++ [(key.1, request)]))
  | timed runs =>
      let (progress, runs) := runs.request key request
      (progress, timed runs)

/-- Forget the timed animations that nobody asked for. -/
def sweep : Controller → Controller
  | instant requests => instant requests
  | timed runs => timed runs.sweep

/-- Forget the requests that were made. -/
def restart : Controller → Controller
  | instant _ => instant
  | timed runs => timed runs

end Controller

/-- A pointer of which the states of the first buttons are given. -/
def pointerOf (buttons : List ButtonState) : Nat → ButtonState
  | 0 => {}
  | index + 1 => (buttons[index]?).getD {}

/-- Surroundings made of stand-ins. -/
def rehearsal (graph : BehaviorGraph) (maxDepth : Nat) (time : Float32) (contacts : Contacts)
    (buttons : List ButtonState) : Surroundings Controller :=
  { graph, maxDepth, time
    overlaps := contacts.overlaps
    support := contacts.support
    button := pointerOf buttons
    animate := Controller.request }

end Stagecraft
