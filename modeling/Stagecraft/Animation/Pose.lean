/-
Module: Stagecraft.Animation.Pose
Purpose: What animation an actor shows, in which direction, at which frame.
Main exports:
  AnimationKind, Direction, Pose, Pose.change, Pose.pin
-/
import Stagecraft.Text.Blank

namespace Stagecraft

/-- The animations of an actor.  `current` and `none` are requests that keep
the animation as it is. -/
inductive AnimationKind where
  | idle
  | walk
  | run
  | jump
  | fall
  | current
  | none
deriving Repr, DecidableEq, Inhabited

namespace AnimationKind

def all : List AnimationKind := [idle, walk, run, jump, fall, current, none]

def name : AnimationKind → String
  | idle => "Idle"
  | walk => "Walk"
  | run => "Run"
  | jump => "Jump"
  | fall => "Fall"
  | current => "Current"
  | none => "None"

/-- The kind that a text names, in either letter case. -/
def parse? (text : String) : Option AnimationKind :=
  all.find? fun kind => Text.upper (Text.trim text) == Text.upper kind.name

end AnimationKind

/-- The directions an actor may face.  `current` is a request to keep the
direction. -/
inductive Direction where
  | up
  | down
  | left
  | right
  | current
deriving Repr, DecidableEq, Inhabited

namespace Direction

def all : List Direction := [up, down, left, right, current]

def name : Direction → String
  | up => "Up"
  | down => "Down"
  | left => "Left"
  | right => "Right"
  | current => "Current"

/-- The direction that a text names, in either letter case. -/
def parse? (text : String) : Option Direction :=
  all.find? fun direction => Text.upper (Text.trim text) == Text.upper direction.name

end Direction

/-- The animation an actor shows. -/
structure Pose where
  kind : AnimationKind := .idle
  direction : Direction := .down
  frame : Nat := 0
deriving Repr, DecidableEq, Inhabited

namespace Pose

/-- Change the animation and the direction as requested.  A new animation
begins at its first frame. -/
def change (pose : Pose) (kind : AnimationKind) (direction : Direction) : Pose :=
  let begun : Pose :=
    match kind with
    | .current | .none => pose
    | kind => if kind = pose.kind then pose else { pose with kind, frame := 0 }
  if direction = .current then begun else { begun with direction }

/-- Change the animation and hold it at a frame. -/
def pin (pose : Pose) (kind : AnimationKind) (direction : Direction) (frame : Nat) : Pose :=
  { pose.change kind direction with frame }

end Pose

end Stagecraft
