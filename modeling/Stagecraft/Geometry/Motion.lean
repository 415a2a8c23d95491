/-
Module: Stagecraft.Geometry.Motion
Purpose: How velocities and positions change during one tick.
Main exports:
  accelerate, decelerate, integrate, JumpProfile, JumpProfile.of?
-/
import Stagecraft.Geometry.Vec2
import Stagecraft.Number.Conversion

namespace Stagecraft

/-!
Velocities change one axis at a time, because an axis may be out of bounds for
an action while the other one is free.  Every operation is rounded on its own.
-/

/-- The velocity after a time under an acceleration.  A bound limits it when it
lies in the direction of the acceleration or is zero; a bound in the other
direction is no bound. -/
def accelerate (velocity factor : Float32) (bound : Option Float32) (time : Float32) :
    Float32 :=
  let next := velocity + factor * time
  match bound with
  | none => next
  | some limit =>
      if 0 < factor ∧ 0 ≤ limit then Number.least next limit
      else if factor < 0 ∧ limit ≤ 0 then Number.greatest next limit
      else next

/-- The velocity after a time of braking, which ends at zero. -/
def decelerate (velocity rate time : Float32) : Float32 :=
  let step := (rate * time).abs
  if 0 < velocity then Number.greatest (velocity - step) 0
  else if velocity < 0 then Number.least (velocity + step) 0
  else 0

/-- The position after a time at a velocity. -/
def integrate (position velocity : Vec2) (time : Float32) : Vec2 :=
  position.add (velocity.scale time)

/-- The take-off of a jump: the time until its highest point and the speed
upwards at the start. -/
structure JumpProfile where
  apexTime : Float32
  initialSpeed : Float32
deriving Inhabited

namespace JumpProfile

/-- The time until the highest point. -/
def apexTimeOf (duration slowFactor : Float32) : Float32 := duration * (1 - slowFactor)

/-- The take-off of a jump of a given height; none when the time until its
highest point is not positive. -/
def of? (height duration slowFactor : Float32) : Option JumpProfile :=
  let apexTime := apexTimeOf duration slowFactor
  if 0 < apexTime then some { apexTime, initialSpeed := 2 * height / apexTime }
  else none

end JumpProfile

end Stagecraft
