/-
Module: Stagecraft.Geometry.Hitbox
Purpose: Rectangles of the stage plane and the named hitboxes of actors.
Main exports:
  Rectangle, Rectangle.overlaps, Hitbox, Hitbox.at, hitboxNamed?, bounds
-/
import Stagecraft.Geometry.Vec2
import Stagecraft.Text.Blank

namespace Stagecraft

/-- A rectangle with sides along the axes, given by its corners. -/
structure Rectangle where
  min : Vec2
  max : Vec2
deriving DecidableEq, Inhabited

namespace Rectangle

/-- The rectangle between two opposite corners. -/
def spanning (a b : Vec2) : Rectangle := { min := a.lower b, max := a.upper b }

/-- Whether two rectangles share an inner point.  Touching edges do not
count. -/
def overlaps (a b : Rectangle) : Bool :=
  a.min.x < b.max.x && b.min.x < a.max.x && a.min.y < b.max.y && b.min.y < a.max.y

/-- The smallest rectangle around two rectangles. -/
def hull (a b : Rectangle) : Rectangle :=
  { min := a.min.lower b.min, max := a.max.upper b.max }

end Rectangle

/-- A named rectangle of an actor.  A negative size reaches to the left or
upwards. -/
structure Hitbox where
  name : String
  size : Vec2
  offset : Vec2 := .zero
deriving DecidableEq, Inhabited

/-- The place of a hitbox when its actor stands at a position. -/
def Hitbox.at (hitbox : Hitbox) (position : Vec2) : Rectangle :=
  let corner := position.add hitbox.offset
  .spanning corner (corner.add hitbox.size)

/-- The first hitbox of a name; letter case does not matter. -/
def hitboxNamed? (hitboxes : List Hitbox) (name : String) : Option Hitbox :=
  hitboxes.find? fun hitbox => Text.sameName hitbox.name name

/-- The smallest rectangle around all hitboxes of an actor; without hitboxes
the position itself. -/
def bounds (hitboxes : List Hitbox) (position : Vec2) : Rectangle :=
  match hitboxes.map fun hitbox => hitbox.at position with
  | [] => { min := position, max := position }
  | first :: rest => rest.foldl .hull first

end Stagecraft
