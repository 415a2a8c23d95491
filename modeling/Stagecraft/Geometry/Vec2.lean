/-
Module: Stagecraft.Geometry.Vec2
Purpose: Points and displacements of the stage plane.
Main exports:
  Vec2
-/

namespace Stagecraft

/-- A point or a displacement.  `x` grows to the right and `y` downwards. -/
structure Vec2 where
  x : Float32
  y : Float32
deriving DecidableEq, Inhabited

namespace Vec2

def zero : Vec2 := { x := 0, y := 0 }

/-- Displace a point. -/
def add (a b : Vec2) : Vec2 := { x := a.x + b.x, y := a.y + b.y }

/-- Stretch a displacement. -/
def scale (a : Vec2) (factor : Float32) : Vec2 := { x := a.x * factor, y := a.y * factor }

/-- The smaller coordinates of two points.  Where one is "not a number" it is
the second. -/
def lower (a b : Vec2) : Vec2 :=
  { x := if a.x < b.x then a.x else b.x, y := if a.y < b.y then a.y else b.y }

/-- The larger coordinates of two points.  Where one is "not a number" it is
the second. -/
def upper (a b : Vec2) : Vec2 :=
  { x := if b.x < a.x then a.x else b.x, y := if b.y < a.y then a.y else b.y }

end Vec2

end Stagecraft
