/-
Module: Stagecraft.Graph.Template
Purpose: Actor templates: key bindings, responses and hitboxes, before and
  after their event names are linked.
Main exports:
  Occasion, BindingDeclaration, TemplateDeclaration, TemplateEntry.declare, KeyBinding,
  Responses, Template
-/
import Stagecraft.Geometry.Hitbox
import Stagecraft.Graph.PropertyBag
import Stagecraft.Input.Key

namespace Stagecraft

/-- The occasions on which an actor responds without a key. -/
inductive Occasion where
  | onSpawn
  | onAlways
  | onCollision
deriving Repr, DecidableEq, Inhabited

namespace Occasion

def all : List Occasion := [onSpawn, onAlways, onCollision]

def name : Occasion → String
  | onSpawn => "ON_SPAWN"
  | onAlways => "ON_ALWAYS"
  | onCollision => "ON_COLLISION"

def ofName? (name : String) : Option Occasion :=
  all.find? fun occasion => occasion.name == name

end Occasion

/-- What a key does to an actor, with events still named.  A binding without an
event is kept but does nothing. -/
structure BindingDeclaration where
  key : KeyName
  event : Option Reference
  down : Bool
  up : Bool
  sustained : Bool
  priority : Option Priority
  stopEvent : Option Reference
deriving DecidableEq, Inhabited

/-- An actor template with events still named. -/
structure TemplateDeclaration where
  name : String
  bindings : List BindingDeclaration
  responses : List (Occasion × Reference)
  hitboxes : List Hitbox
deriving Inhabited

def TemplateDeclaration.home (template : TemplateDeclaration) : Namespace :=
  .actor template.name

/-- What a key does to an actor.  A sustained binding acts on every tick while
its key is held, and its stop event once at the end; any other one acts on the
tick its key goes down or up. -/
structure KeyBinding where
  key : KeyName
  event : Option NodeId
  down : Bool
  up : Bool
  sustained : Bool
  priority : Priority
  stopEvent : Option NodeId
deriving DecidableEq, Inhabited

/-- The events an actor runs without a key. -/
structure Responses where
  onSpawn : Option NodeId := none
  onAlways : Option NodeId := none
  onCollision : Option NodeId := none
deriving Repr, DecidableEq, Inhabited

/-- The event for an occasion, set or replaced. -/
def Responses.set (responses : Responses) (id : NodeId) : Occasion → Responses
  | .onSpawn => { responses with onSpawn := some id }
  | .onAlways => { responses with onAlways := some id }
  | .onCollision => { responses with onCollision := some id }

def Responses.event? (responses : Responses) : Occasion → Option NodeId
  | .onSpawn => responses.onSpawn
  | .onAlways => responses.onAlways
  | .onCollision => responses.onCollision

theorem Responses.event?_set (responses : Responses) (id : NodeId) (occasion other : Occasion) :
    (responses.set id occasion).event? other =
      if other = occasion then some id else responses.event? other := by
  cases occasion <;> cases other <;> rfl

/-- An actor template. -/
structure Template where
  name : String
  bindings : List KeyBinding
  responses : Responses
  hitboxes : List Hitbox
deriving Inhabited

def Template.home (template : Template) : Namespace := .actor template.name

namespace Definition

open PropertyBag

/-- Use up the properties of a key binding. -/
def binding (key : KeyName) : Using BindingDeclaration := do
  let event ← child "EVENT"
  let stopEvent ← child "STOP_EVENT"
  let sustained ← flag "SUSTAINED" false
  let down ← flag "DOWN" false
  let up ← flag "UP" false
  let priority ← priority
  refuseRest
  pure { key, event, down, up, sustained, priority, stopEvent }

end Definition

/-- The declaration of a key binding, or everything that is wrong with it.  A
binding that asks for no edge acts when its key goes down. -/
def BindingEntry.declare (entry : BindingEntry) :
    Except (List BindingObjection) BindingDeclaration :=
  let key := KeyName.ofText entry.key
  if key.isEmpty then .error [.emptyKey]
  else
    let (binding, bag) := (Definition.binding key).run (.ofEntries entry.properties)
    let objections :=
      bag.problems.map .property ++
        (if binding.sustained && (binding.down || binding.up) then
          [.sustainedWithEdge] else []) ++
        (if binding.stopEvent.isSome && !binding.sustained then
          [.stopWithoutSustained] else [])
    if objections.isEmpty then
      .ok { binding with down := binding.down || !binding.sustained && !binding.up }
    else .error objections

/-- The declaration of a response: nothing for a blank target, and an error for
an unknown occasion. -/
def declareResponse (template : String) (response : String × String) :
    Except LoadError (Option (Occasion × Reference)) :=
  let name := Text.upper (Text.trim response.1)
  match Occasion.ofName? name with
  | none => .error (.property template (.invalid name .unknownResponse))
  | some occasion =>
      if Text.isAllBlank response.2 then .ok none
      else .ok (some (occasion, .parse response.2))

def HitboxEntry.hitbox (entry : HitboxEntry) : Hitbox :=
  { name := entry.name
    size := { x := entry.width, y := entry.height }
    offset := { x := entry.x, y := entry.y } }

def SolidEntry.rectangle (entry : SolidEntry) : Rectangle :=
  let corner : Vec2 := { x := entry.x, y := entry.y }
  .spanning corner (corner.add { x := entry.width, y := entry.height })

/-- The declaration of a template and everything that is wrong with it.
Bindings and responses with errors are left out. -/
def TemplateEntry.declare (entry : TemplateEntry) : TemplateDeclaration × List LoadError :=
  let bindings := entry.bindings.map fun binding => (binding.key, binding.declare)
  let responses := entry.responses.map (declareResponse entry.name)
  let bindingErrors := bindings.flatMap fun (key, result) =>
    match result with
    | .ok _ => []
    | .error objections => objections.map (.invalidBinding entry.name key)
  let responseErrors := responses.filterMap fun result =>
    match result with
    | .ok _ => none
    | .error error => some error
  ({ name := entry.name
     bindings := bindings.filterMap fun (_, result) => result.toOption
     responses := responses.filterMap fun result => result.toOption.join
     hitboxes := entry.hitboxes.map HitboxEntry.hitbox },
    bindingErrors ++ responseErrors)

end Stagecraft
