/-
Module: Stagecraft.Evaluation.Request
Purpose: What events ask of sound, map and layers; nothing of it is answered.
Main exports:
  Music, TextOverlay, Spawn, Request
-/
import Stagecraft.Geometry.Vec2
import Stagecraft.Value.Color

namespace Stagecraft

/-- Music to play.  A negative number of repetitions has no end. -/
structure Music where
  path : String
  repetitions : Int32
  fadeIn : Nat
deriving Repr, DecidableEq, Inhabited

/-- A text to show on a layer. -/
structure TextOverlay where
  text : String
  layer : String
  position : Vec2
  color : Color
  bold : Bool
  italic : Bool
  underline : Bool
deriving DecidableEq, Inhabited

/-- An actor to enter the stage. -/
structure Spawn where
  template : String
  layer : String
  position : Vec2
  name : Option String
deriving DecidableEq, Inhabited

/-- Something that an event asks for. -/
inductive Request where
  | playSound (path : String)
  | playMusic (music : Music)
  | changeMap (path : String) (keepVariables : Bool)
  | closeMap
  | quit
  | instantiateTemplate (source destination : String)
  | setLayerHidden (layer : String) (hidden : Bool)
  | spawnText (overlay : TextOverlay)
  | spawnActor (spawn : Spawn)
deriving DecidableEq, Inhabited

end Stagecraft
