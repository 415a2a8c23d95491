/-
Module: Stagecraft.Actor.Basic
Purpose: Actors on the stage, and the names under which events see their
  position, velocity and rotation as variables.
Main exports:
  Actor, Quantity, Actor.lookup, Actor.change
-/
import Stagecraft.Actor.Sustained
import Stagecraft.Animation.Run

namespace Stagecraft

/-- An actor.  Its template is also the namespace of its events.  `guards` are
the one-shot guards that let it pass, in the order in which they did; `isLeaving`
says that it leaves the stage at the end of the tick, and `hasEntered` that it
has had its first tick. -/
structure Actor where
  id : ActorId
  template : String
  name : Option String := none
  hitboxes : List Hitbox := []
  position : Vec2 := .zero
  velocity : Vec2 := .zero
  rotation : Float32 := 0
  pose : Pose := {}
  store : VariableStore := .empty
  sustained : SustainedActions := {}
  guards : List NodeId := []
  isLeaving : Bool := false
  hasEntered : Bool := false
deriving Inhabited

def Actor.home (actor : Actor) : Namespace := .actor actor.template

def Actor.body (actor : Actor) : Body :=
  { id := actor.id
    template := actor.template
    position := actor.position
    hitboxes := actor.hitboxes }

/-!
Five names are reserved.  Under them events read and write the motion of the
actor itself instead of a variable.
-/

/-- What can be read and written under a reserved name. -/
inductive Quantity where
  | xSpeed
  | ySpeed
  | xPosition
  | yPosition
  | rotation
deriving Repr, DecidableEq, Inhabited

namespace Quantity

def all : List Quantity := [xSpeed, ySpeed, xPosition, yPosition, rotation]

def name : Quantity → String
  | xSpeed => "__XSPEED"
  | ySpeed => "__YSPEED"
  | xPosition => "__XPOS"
  | yPosition => "__YPOS"
  | rotation => "__ROTATION"

def ofName? (name : String) : Option Quantity :=
  all.find? fun quantity => quantity.name == name

/-- A name is the one reserved for what it is reserved for. -/
theorem ofName?_eq_some_iff {name : String} {quantity : Quantity} :
    ofName? name = some quantity ↔ quantity.name = name := by
  constructor
  · intro found
    simpa using List.find?_some found
  · rintro rfl
    cases quantity <;> decide

end Quantity

namespace Actor

def quantity (actor : Actor) : Quantity → Float32
  | .xSpeed => actor.velocity.x
  | .ySpeed => actor.velocity.y
  | .xPosition => actor.position.x
  | .yPosition => actor.position.y
  | .rotation => actor.rotation

def setQuantity (actor : Actor) (quantity : Quantity) (x : Float32) : Actor :=
  match quantity with
  | .xSpeed => { actor with velocity := { actor.velocity with x } }
  | .ySpeed => { actor with velocity := { actor.velocity with y := x } }
  | .xPosition => { actor with position := { actor.position with x } }
  | .yPosition => { actor with position := { actor.position with y := x } }
  | .rotation => { actor with rotation := x }

/-- What an event of the actor reads under a name: a quantity, or else a
variable of the actor, or else a variable of the map. -/
def lookup (actor : Actor) (map : VariableStore) (name : String) : Option Value :=
  match Quantity.ofName? name with
  | some quantity => some (.float (actor.quantity quantity))
  | none => (actor.store.find? name).or (map.find? name)

/-- Change what the actor holds under a name.  Quantities take only numbers. -/
def change (actor : Actor) (mode : SetMode) (name : String) (operand : Value) :
    Except VariableError Actor :=
  match Quantity.ofName? name with
  | some quantity =>
      match operand.number? with
      | some x =>
          .ok (actor.setQuantity quantity (mode.combineNumber (actor.quantity quantity) x))
      | none =>
          .error (.typeMismatch name { expected := "float", found := operand.typeName })
  | none =>
      (VariableStore.change actor.store mode name operand).map fun store =>
        { actor with store }

end Actor

end Stagecraft
