/-
Module: Stagecraft.Graph.Node
Purpose: Event nodes: where their names live, what they do, and which other
  nodes they lead to.
Main exports:
  Namespace, NodeId, Signal, Priority, Reference, Edge, Role, Children,
  NodeKind, Node
-/
import Stagecraft.Animation.Pose
import Stagecraft.Value.Store

namespace Stagecraft

/-- Where a node name is declared: for the whole map, or privately for the
actors of one template. -/
inductive Namespace where
  | map
  | actor (template : String)
deriving Repr, DecidableEq, Inhabited

/-- How messages name a namespace. -/
def Namespace.describe : Namespace → String
  | .map => "map namespace"
  | .actor template => "actor namespace '" ++ template ++ "'"

/-- The number of a node within its graph. -/
abbrev NodeId := Nat

/-- What a node may signal when it has succeeded. -/
inductive Signal where
  | stop
  | next
deriving Repr, DecidableEq, Inhabited

namespace Signal

def name : Signal → String
  | stop => "STOP"
  | next => "NEXT"

/-- The signal that a text names, in either letter case. -/
def parse? (text : String) : Option Signal :=
  [stop, next].find? fun signal => Text.upper (Text.trim text) == signal.name

end Signal

/-- The weight of a sustained action among others; the greater wins. -/
structure Priority where
  rank : Int32
deriving Repr, DecidableEq, Inhabited

namespace Priority

def low : Priority := { rank := 0 }

/-- The priority of actions that ask for none. -/
def medium : Priority := { rank := 1 }

def high : Priority := { rank := 2 }

/-- The priority that a text names: one of three words in either letter case,
or a whole number. -/
def parse? (text : String) : Option Priority :=
  let word := Text.upper (Text.trim text)
  if word = "LOW" then some low
  else if word = "MEDIUM" then some medium
  else if word = "HIGH" then some high
  else
    (Text.integer? Text.Range.int32 word).map fun n => { rank := Int32.ofInt n }

/-- The priority that a value stands for. -/
def ofValue? : Value → Option Priority
  | .int n => some { rank := n }
  | .text s => parse? s
  | _ => none

end Priority

/-! ### Leading from node to node -/

/-- A child as the document writes it: a node name, or a variable that holds
the name when the child is reached. -/
inductive Reference where
  | named (name : String)
  | variable (name : String)
deriving Repr, DecidableEq, Inhabited

/-- A text that begins with a star refers to a variable. -/
def Reference.parse (text : String) : Reference :=
  match text.toList with
  | '*' :: rest => .variable (String.ofList rest)
  | _ => .named text

/-- A child after linking: a node, or still a variable. -/
inductive Edge where
  | node (id : NodeId)
  | variable (name : String)
deriving Repr, DecidableEq, Inhabited

/-- What a child is for. -/
inductive Role where
  | numbered (key : Int)
  | success
  | failure
  | event
deriving Repr, DecidableEq, Inhabited

/-- The children of a node.  Numbered children stand in the order of their
numbers. -/
structure Children (ρ : Type) where
  numbered : List (Int × ρ) := []
  success : Option ρ := none
  failure : Option ρ := none
  event : Option ρ := none
deriving DecidableEq, Inhabited

namespace Children

/-- Put a child behind all children with a number that is not greater. -/
def place (key : Int) (child : ρ) : List (Int × ρ) → List (Int × ρ)
  | [] => [(key, child)]
  | (other, first) :: rest =>
      if other ≤ key then (other, first) :: place key child rest
      else (key, child) :: (other, first) :: rest

def addNumbered (children : Children ρ) (key : Int) (child : ρ) : Children ρ :=
  { children with numbered := place key child children.numbered }

/-- All children with their roles, the numbered ones first. -/
def toList (children : Children ρ) : List (Role × ρ) :=
  children.numbered.map (fun (key, child) => (Role.numbered key, child)) ++
    children.success.toList.map (Role.success, ·) ++
    children.failure.toList.map (Role.failure, ·) ++
    children.event.toList.map (Role.event, ·)

theorem numbered_mem_toList {children : Children ρ} {key : Int} {child : ρ} :
    (Role.numbered key, child) ∈ children.toList ↔ (key, child) ∈ children.numbered := by
  simp [toList]

theorem success_mem_toList {children : Children ρ} {child : ρ} :
    (Role.success, child) ∈ children.toList ↔ children.success = some child := by
  simp [toList]

theorem failure_mem_toList {children : Children ρ} {child : ρ} :
    (Role.failure, child) ∈ children.toList ↔ children.failure = some child := by
  simp [toList]

theorem event_mem_toList {children : Children ρ} {child : ρ} :
    (Role.event, child) ∈ children.toList ↔ children.event = some child := by
  simp [toList]

/-- Transform every child, if all of them can be transformed. -/
def mapM? (f : Role → ρ → Option σ) (children : Children ρ) : Option (Children σ) := do
  let numbered ← children.numbered.mapM fun (key, child) =>
    (f (.numbered key) child).map (key, ·)
  let success ← children.success.mapM (f .success)
  let failure ← children.failure.mapM (f .failure)
  let event ← children.event.mapM (f .event)
  pure { numbered, success, failure, event }

end Children

/-! ### What nodes do -/

/-- How the conditions of a switch are combined: the first success decides, or
the first failure. -/
inductive SwitchMode where
  | any
  | all
deriving Repr, DecidableEq, Inhabited

/-- The relations of a comparison; it succeeds when one of them holds. -/
structure Relations where
  eq : Bool := false
  ne : Bool := false
  lt : Bool := false
  gt : Bool := false
deriving Repr, DecidableEq, Inhabited

/-- The states of a pointer button that a test asks for; it succeeds when one
of them holds. -/
structure ButtonQuery where
  button : Nat
  pressed : Bool
  released : Bool
  down : Bool
deriving Repr, DecidableEq, Inhabited

/-- How long an animation is asked to run. -/
inductive AnimationSpan where
  | once
  | gameFrames (count : Parameter Int32)
  | cycles (count : Parameter Int32)
  | animationFrames (count : Parameter Int32)
deriving DecidableEq, Inhabited

/-- How a text overlay looks. -/
structure TextStyle where
  color : Color := .black
  bold : Bool := false
  italic : Bool := false
  underline : Bool := false
deriving Repr, DecidableEq, Inhabited

/-- What a node does, with its parameters. -/
inductive NodeKind where
  | accelerate (x y : Parameter Float32) (xMax yMax : Option (Parameter Float32))
  | decelerate (x y : Parameter Float32)
  | move
  | fall (acceleration maxSpeed : Parameter Float32) (animation : AnimationKind)
  | jump (height duration slowFactor : Parameter Float32) (animation : AnimationKind)
  | multi
  | setVariable (name : String) (value : Parameter Value) (mode : SetMode) (isGlobal : Bool)
  | animate (animation : AnimationKind) (direction : Direction) (span : AnimationSpan)
  | sound (path : Parameter String)
  | playMusic (path : Parameter String) (repetitions fadeIn : Parameter Int32)
  | rotate (degrees : Parameter Float32) (absolute : Bool)
  | spawnText (text : Parameter String) (layer : String) (style : TextStyle)
  | eraseSelf
  | spawnActor (template layer : String) (x y : Parameter Float32) (name : Option String)
  | setFrame (animation : AnimationKind) (direction : Direction) (frame : Parameter Int32)
  | engineWrapper
  | onGround (tolerance : Parameter Float32)
  | switch (mode : SwitchMode)
  | singleGuard
  | collision (mine other : String) (otherName : Option String)
  | mouseButton (query : ButtonQuery)
  | compare (left right : Parameter Value) (relations : Relations)
  | layerState (layer : Parameter String) (hidden : Bool)
  | templateLayer (source destination : String)
  | changeMap (path : Parameter String) (keepVariables : Bool)
  | closeMap
  | quit
deriving DecidableEq, Inhabited

namespace NodeKind

def tag : NodeKind → String
  | accelerate .. => "accelerate"
  | decelerate .. => "decelerate"
  | move => "move"
  | fall .. => "fall"
  | jump .. => "jump"
  | multi => "multi"
  | setVariable .. => "set-var"
  | animate .. => "animate"
  | sound .. => "sound"
  | playMusic .. => "play-music"
  | rotate .. => "rotate"
  | spawnText .. => "spawn-text"
  | eraseSelf => "erase-self"
  | spawnActor .. => "spawn-actor"
  | setFrame .. => "set-anim-frame"
  | engineWrapper => "engine-wrapper"
  | onGround .. => "on-ground"
  | switch .. => "switch"
  | singleGuard => "single-guard"
  | collision .. => "collision"
  | mouseButton .. => "mouse-button"
  | compare .. => "compare"
  | layerState .. => "layer-state"
  | templateLayer .. => "template-layer"
  | changeMap .. => "change-map"
  | closeMap => "close-map"
  | quit => "quit"

/-- Whether a kind decides between a success and a failure child. -/
def isTest : NodeKind → Bool
  | onGround .. | switch .. | collision .. | mouseButton .. | compare .. => true
  | _ => false

end NodeKind

/-- An event node.  Its children are references before linking and edges
after. -/
structure Node (ρ : Type) where
  name : String
  home : Namespace
  kind : NodeKind
  signal : Option Signal := none
  priority : Option Priority := none
  children : Children ρ := {}
deriving DecidableEq, Inhabited

end Stagecraft
