/-
Module: Stagecraft.Document.Basic
Purpose: The table document of a stage as it is written: events, actor
  templates and solid ground, with all names and values still as text.
Main exports:
  Document, NodeEntry, PropertyEntry, TemplateEntry, BindingEntry,
  HitboxEntry, SolidEntry
-/
import Stagecraft.Json.Basic

namespace Stagecraft

/-- A named property with the type its author declared, if any. -/
structure PropertyEntry where
  name : String
  declared : Option String := none
  value : Json
deriving Inhabited

/-- An event node: its name, the name of its kind, and its properties. -/
structure NodeEntry where
  name : String := ""
  kind : String
  properties : List PropertyEntry := []
deriving Inhabited

/-- A key and the properties that say what it does. -/
structure BindingEntry where
  key : String
  properties : List PropertyEntry := []
deriving Inhabited

/-- A named rectangle of an actor, relative to the position of the actor. -/
structure HitboxEntry where
  name : String
  x : Float32 := 0
  y : Float32 := 0
  width : Float32
  height : Float32
deriving Inhabited

/-- A rectangle of solid ground. -/
structure SolidEntry where
  x : Float32
  y : Float32
  width : Float32
  height : Float32
deriving Inhabited

/-- An actor template.  `responses` pairs the name of an occasion with the name
of an event, in the order of the occasions' names. -/
structure TemplateEntry where
  name : String
  events : List NodeEntry := []
  bindings : List BindingEntry := []
  responses : List (String × String) := []
  hitboxes : List HitboxEntry := []
deriving Inhabited

/-- The table document of a stage. -/
structure Document where
  mapEvents : List NodeEntry := []
  actors : List TemplateEntry := []
  solids : List SolidEntry := []
deriving Inhabited

end Stagecraft
