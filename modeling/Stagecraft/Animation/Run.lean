/-
Module: Stagecraft.Animation.Run
Purpose: Timed animations: how long they last in ticks, and how far each of
  them has come.
Main exports:
  FrameLength, AnimationRequest, Progress, AnimationRuns, AnimationRuns.request,
  AnimationRuns.sweep
-/
import Stagecraft.Animation.Pose
import Stagecraft.Geometry.Snapshot
import Stagecraft.Graph.Node

namespace Stagecraft

/-- How long an animation is to run.  A continuous one only says what to show
and has no end. -/
inductive FrameLength where
  | once
  | gameFrames (count : Nat)
  | cycles (count : Nat)
  | animationFrames (count : Nat)
  | continuous
deriving Repr, DecidableEq, Inhabited

/-- Whether a length is only a hint at what to show. -/
def FrameLength.isHint : FrameLength → Bool
  | continuous => true
  | _ => false

/-- An animation that a node asks for. -/
structure AnimationRequest where
  kind : AnimationKind
  direction : Direction
  frames : FrameLength
deriving Repr, DecidableEq, Inhabited

/-- Whether an animation that was asked for still runs. -/
inductive Progress where
  | running
  | completed
deriving Repr, DecidableEq, Inhabited

/-!
A timed animation belongs to the actor that shows it and the node that asked
for it.  It advances by one tick with every request, and it is forgotten when
its node does not ask for it between two sweeps.
-/

/-- The actor that shows an animation and the node that asks for it. -/
abbrev RunKey := ActorId × NodeId

/-- A timed animation: what was asked for, the ticks it has had, and whether it
was asked for since the last sweep. -/
structure AnimationRun where
  request : AnimationRequest
  ticks : Nat
  isTouched : Bool
deriving Repr, DecidableEq, Inhabited

/-- All timed animations, with the frames of a cycle and the ticks of a
frame. -/
structure AnimationRuns where
  framesPerCycle : Nat := 4
  ticksPerFrame : Nat := 6
  runs : List (RunKey × AnimationRun) := []
deriving Inhabited

namespace AnimationRuns

/-- The longest duration; longer ones are cut. -/
def longest : Nat := 4294967295

/-- The ticks of an animation, at least one; none for an animation without a
time. -/
def duration? (animations : AnimationRuns) : FrameLength → Option Nat
  | .once | .continuous => none
  | .gameFrames count => some (max 1 count)
  | .animationFrames count => some (max 1 (min (count * animations.ticksPerFrame) longest))
  | .cycles count =>
      let frames := min (count * animations.framesPerCycle) longest
      some (max 1 (min (frames * animations.ticksPerFrame) longest))

def find? (animations : AnimationRuns) (key : RunKey) : Option AnimationRun :=
  animations.runs.lookup key

def isRunning (animations : AnimationRuns) (key : RunKey) : Bool :=
  (animations.find? key).isSome

/-- Put a run under its key, behind all others if the key is new. -/
def store (key : RunKey) (run : AnimationRun) :
    List (RunKey × AnimationRun) → List (RunKey × AnimationRun)
  | [] => [(key, run)]
  | (other, old) :: rest =>
      if other = key then (key, run) :: rest else (other, old) :: store key run rest

/-- The ticks that a request brings a run to.  A request other than the one
before begins anew. -/
def ticksAfter (request : AnimationRequest) : Option AnimationRun → Nat
  | some run => if run.request = request then run.ticks + 1 else 1
  | none => 1

/-- Ask for an animation.  One without a time is complete at once if it runs
once and never if it is continuous. -/
def request (animations : AnimationRuns) (key : RunKey) (request : AnimationRequest) :
    Progress × AnimationRuns :=
  match animations.duration? request.frames with
  | none =>
      if request.frames.isHint then (.running, animations) else (.completed, animations)
  | some duration =>
      let ticks := ticksAfter request (animations.find? key)
      if duration ≤ ticks then
        (.completed,
          { animations with runs := animations.runs.filter fun entry => entry.1 != key })
      else
        (.running,
          { animations with
            runs := store key { request, ticks, isTouched := true } animations.runs })

/-- Forget the runs that nobody asked for since the last sweep. -/
def sweep (animations : AnimationRuns) : AnimationRuns :=
  { animations with
    runs := (animations.runs.filter fun entry => entry.2.isTouched).map fun (key, run) =>
      (key, { run with isTouched := false }) }

def forget (animations : AnimationRuns) (actor : ActorId) : AnimationRuns :=
  { animations with runs := animations.runs.filter fun entry => entry.1.1 != actor }

def clear (animations : AnimationRuns) : AnimationRuns := { animations with runs := [] }

def size (animations : AnimationRuns) : Nat := animations.runs.length

end AnimationRuns

end Stagecraft
