/-
Module: Stagecraft.Evaluation.Signals
Purpose: Signals between the nodes of one evaluation: STOP, and the axes of
  motion that are taken.
Main exports:
  Axis, AxisLocks, Signals, Signals.mayUse, Signals.claim, Signals.locks
-/

namespace Stagecraft

/-- An axis of motion. -/
inductive Axis where
  | x
  | y
deriving Repr, DecidableEq, Inhabited

/-- The axes that are taken. -/
structure AxisLocks where
  x : Bool := false
  y : Bool := false
deriving Repr, DecidableEq, Inhabited

namespace AxisLocks

def holds (locks : AxisLocks) : Axis → Bool
  | .x => locks.x
  | .y => locks.y

def hold (locks : AxisLocks) : Axis → AxisLocks
  | .x => { locks with x := true }
  | .y => { locks with y := true }

/-- The axes taken in one or the other. -/
def union (first second : AxisLocks) : AxisLocks :=
  { x := first.x || second.x, y := first.y || second.y }

@[simp] theorem holds_hold (locks : AxisLocks) (taken axis : Axis) :
    (locks.hold taken).holds axis = (locks.holds axis || decide (taken = axis)) := by
  cases taken <;> cases axis <;> simp [hold, holds]

@[simp] theorem holds_union (first second : AxisLocks) (axis : Axis) :
    (first.union second).holds axis = (first.holds axis || second.holds axis) := by
  cases axis <;> rfl

end AxisLocks

/-!
An evaluation may use every axis that was free when it began, also one that it
has claimed itself.  What it claims is out of bounds only for later
evaluations.
-/

/-- The signals of one evaluation. -/
structure Signals where
  stopped : Bool := false
  inherited : AxisLocks := {}
  claimed : AxisLocks := {}
deriving Repr, DecidableEq, Inhabited

namespace Signals

/-- The signals at the beginning, with the axes that others hold. -/
def inheriting (locks : AxisLocks) : Signals := { inherited := locks }

def stop (signals : Signals) : Signals := { signals with stopped := true }

/-- Whether an axis is free for this evaluation. -/
def mayUse (signals : Signals) (axis : Axis) : Bool := !signals.inherited.holds axis

def claim (signals : Signals) (axis : Axis) : Signals :=
  { signals with claimed := signals.claimed.hold axis }

/-- The axes that are taken for later evaluations. -/
def locks (signals : Signals) : AxisLocks := signals.inherited.union signals.claimed

end Signals

end Stagecraft
