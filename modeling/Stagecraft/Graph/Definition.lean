/-
Module: Stagecraft.Graph.Definition
Purpose: From the entries of a document to node definitions: the names of the
  kinds and the properties that each kind takes.
Main exports:
  KindName, KindName.parse?, NodeEntry.define
-/
import Stagecraft.Graph.PropertyBag

namespace Stagecraft

/-- The kinds of nodes, before their parameters are known. -/
inductive KindName where
  | accelerate
  | decelerate
  | move
  | fall
  | jump
  | multi
  | setVariable (isGlobal : Bool)
  | animate
  | sound
  | playMusic
  | rotate
  | spawnText
  | eraseSelf
  | spawnActor
  | setFrame
  | engineWrapper
  | onGround
  | switch
  | singleGuard
  | collision
  | mouseButton
  | compare
  | layerState
  | templateLayer
  | changeMap
  | closeMap
  | quit
deriving Repr, DecidableEq, Inhabited

namespace KindName

/-- The names of the kinds: a plain word each, and the names that level editors
use. -/
def spellings : List (KindName × List String) :=
  [ (accelerate, ["accelerate", "aeaccelerate"]),
    (decelerate, ["decelerate", "aedecelerate"]),
    (move, ["move", "aemove"]),
    (fall, ["fall", "aefall"]),
    (jump, ["jump", "aejump"]),
    (multi, ["multi", "aemulti"]),
    (setVariable false, ["set-var", "aesetvar"]),
    (setVariable true, ["set-global-var", "mesetvar", "gesetvar"]),
    (animate, ["animate", "aeanimate"]),
    (sound, ["sound", "aesound"]),
    (rotate, ["rotate", "aerotate"]),
    (spawnText, ["spawn-text", "aespawntext", "mespawntext"]),
    (eraseSelf, ["erase-self", "aeeraseself", "meeraseactor"]),
    (playMusic, ["play-music", "meplaymusic"]),
    (spawnActor, ["spawn-actor", "aespawnactor"]),
    (setFrame, ["set-anim-frame", "aesetanimframe"]),
    (engineWrapper, ["engine-wrapper", "aegewrapper", "aemewrapper", "megewrapper"]),
    (onGround, ["on-ground", "ateonground"]),
    (switch, ["switch", "ateswitch"]),
    (singleGuard, ["single-guard", "atesingle"]),
    (collision, ["collision", "atecollision"]),
    (mouseButton, ["mouse-button", "atemousebuttons"]),
    (compare, ["compare", "atemath"]),
    (layerState, ["layer-state", "melayerstate"]),
    (templateLayer, ["template-layer", "metemplatelayer"]),
    (changeMap, ["change-map", "gechangemap"]),
    (closeMap, ["close-map", "geclosemap"]),
    (quit, ["quit", "gequit"]) ]

/-- The kind that a text names, in either letter case. -/
def parse? (text : String) : Option KindName :=
  let word := Text.lower (Text.trim text)
  (spellings.find? fun entry => entry.2.contains word).map Prod.fst

/-- Whether the kind decides between a success and a failure child. -/
def isTest : KindName → Bool
  | onGround | switch | collision | mouseButton | compare => true
  | _ => false

/-- Whether the kind takes numbered children. -/
def takesNumbered : KindName → Bool
  | multi | switch => true
  | _ => false

end KindName

namespace Definition

open PropertyBag

/-- Object to a fixed value that does not pass a test. -/
def check (key : String) (objection : Objection) (passes : α → Bool) :
    Parameter α → Using Unit
  | .literal value => if passes value then pure () else object key objection
  | .variable _ => pure ()

/-- Use up a parameter that has a second name; the first one is asked for
first. -/
def parameterOrElse {α : Type} [Accepts α] (key other : String) (fallback : α) :
    Using (Parameter α) := do
  match ← parameter α key with
  | some given => pure given
  | none => parameterOr other fallback

/-- The length of an animation: at most one of three counts. -/
def animationSpan : Using AnimationSpan := do
  let gameFrames ← parameter Int32 "GAME_FRAMES"
  let cycles ← parameter Int32 "CYCLES"
  let animationFrames ← parameter Int32 "ANIMATION_FRAMES"
  let given :=
    gameFrames.toList.map (fun count => ("GAME_FRAMES", AnimationSpan.gameFrames count)) ++
      cycles.toList.map (fun count => ("CYCLES", AnimationSpan.cycles count)) ++
      animationFrames.toList.map
        fun count => ("ANIMATION_FRAMES", AnimationSpan.animationFrames count)
  match given with
  | [] => pure .once
  | [(_, span)] => pure span
  | (_, span) :: (key, _) :: _ => do
      object key .severalSpans
      pure span

/-- Use up the properties of a kind.  The event child of a kind that has one
comes along. -/
def kind : KindName → Using (NodeKind × Option Reference)
  | .accelerate => do
      let x ← parameterOr "XFACTOR" 0
      let y ← parameterOr "YFACTOR" 0
      let xMax ← parameter Float32 "XMAX_SPEED"
      let yMax ← parameter Float32 "YMAX_SPEED"
      pure (.accelerate x y xMax yMax, none)
  | .decelerate => do
      let x ← parameterOr "XFACTOR" 0
      let y ← parameterOr "YFACTOR" 0
      pure (.decelerate x y, none)
  | .move => pure (.move, none)
  | .fall => do
      let acceleration ← parameterOr "ACCELERATION" 500
      let maxSpeed ← parameterOrElse "MAX_SPEED" "MAX_VELOCITY" 1000
      let animation ← animation "ANIMATION_TYPE" .fall
      pure (.fall acceleration maxSpeed animation, none)
  | .jump => do
      let height ← parameterOr "JUMP_HEIGHT" 400
      let duration ← parameterOr "JUMP_DURATION" 0.5
      let slowFactor ← parameterOr "SLOW_FACTOR" 0
      check "JUMP_DURATION" .notPositive (fun (x : Float32) => !(x ≤ 0)) duration
      check "SLOW_FACTOR" .outsideUnit (fun (x : Float32) => 0 ≤ x && x < 1) slowFactor
      let animation ← animation "ANIMATION_TYPE" .jump
      pure (.jump height duration slowFactor animation, none)
  | .multi => pure (.multi, none)
  | .setVariable isGlobal => do
      let name ← requiredText "VAL_NAME"
      let value ← required "VALUE" (Value.int 0)
      let add ← flag "+=" false
      let multiply ← flag "*=" false
      if add && multiply then object "*=" (.conflicts "+=")
      let mode : SetMode := if add then .add else if multiply then .multiply else .assign
      let isGlobal ← flag "GLOBAL" isGlobal
      pure (.setVariable name value mode isGlobal, none)
  | .animate => do
      let animation ← animation "ANIMATION_TYPE" .idle
      let direction ← direction "DIRECTION"
      let span ← animationSpan
      pure (.animate animation direction span, none)
  | .sound => do
      let path ← required "PATH" ""
      pure (.sound path, none)
  | .playMusic => do
      let repetitions ← parameterOrElse "REPETITIONS" "REPITITIONS" (-1)
      let fadeIn ← parameterOr "FADE IN" 0
      check "FADE IN" .negative (fun (n : Int32) => 0 ≤ n) fadeIn
      let path ← required "PATH" ""
      pure (.playMusic path repetitions fadeIn, none)
  | .rotate => do
      let degrees ← parameterOr "DEGREE" 0
      let absolute ← flag "ABSOLUTE" false
      let relative ← flag "RELATIVE" (!absolute)
      if absolute && relative then object "RELATIVE" (.conflicts "ABSOLUTE")
      pure (.rotate degrees absolute, none)
  | .spawnText => do
      let text ← required "TEXT" ""
      let layer ← requiredText "LAYER_NAME"
      let color ← literal Color "COLOR"
      let bold ← flag "BOLD" false
      let italic ← flag "ITALIC" false
      let underline ← flag "UNDERLINE" false
      let style := { color := color.getD .black, bold, italic, underline : TextStyle }
      pure (.spawnText text layer style, none)
  | .eraseSelf => pure (.eraseSelf, none)
  | .spawnActor => do
      let template ← requiredText "ACTOR_NAME"
      let layer ← text "LAYER_NAME"
      let x ← parameterOr "X_POS" 0
      let y ← parameterOr "Y_POS" 0
      let name ← someText "SPAWN_NAME"
      pure (.spawnActor template layer x y name, none)
  | .setFrame => do
      let frame ← parameterOr "ANIMATION_FRAME" 0
      check "ANIMATION_FRAME" .negative (fun (n : Int32) => 0 ≤ n) frame
      let animation ← animation "ANIMATION_TYPE" .current
      let direction ← direction "DIRECTION"
      pure (.setFrame animation direction frame, none)
  | .engineWrapper => do
      let event ← requiredChild "EVENT"
      pure (.engineWrapper, event)
  | .onGround => do
      let tolerance ← parameterOr "TOLERANCE" 0
      pure (.onGround tolerance, none)
  | .switch => do
      let every ← flag "AND" false
      let either ← flag "OR" false
      if every && either then object "OR" (.conflicts "AND")
      pure (.switch (if every then .all else .any), none)
  | .singleGuard => do
      match ← child "EVENT_NAME" with
      | some event => pure (.singleGuard, some event)
      | none => do
          let event ← requiredChild "EVENT"
          pure (.singleGuard, event)
  | .collision => do
      let mine ← requiredText "MY_HITBOX"
      let other ← requiredText "OTHER_HITBOX"
      let otherName ← someText "OTHER_NAME"
      pure (.collision mine other otherName, none)
  | .mouseButton => do
      let given ← literal Int32 "MOUSE_BUTTON_INDEX"
      let button := (given.getD 1).toInt
      if button < 1 || 5 < button then object "MOUSE_BUTTON_INDEX" .unknownButton
      let pressed ← flag "PRESSED" true
      let released ← flag "RELEASED" false
      let down ← flag "DOWN" false
      let query := { button := (max 1 (min 5 button)).toNat, pressed, released, down }
      pure (.mouseButton query, none)
  | .compare => do
      let left ← required "VAL1" (Value.int 0)
      let right ← required "VAL2" (Value.int 0)
      let eq ← flag "==" false
      let ne ← flag "!=" false
      let lt ← flag "<" false
      let gt ← flag ">" false
      if !(eq || ne || lt || gt) then object "==" .noRelation
      if ne && (lt || gt) then object "!=" .relationConflict
      pure (.compare left right { eq, ne, lt, gt }, none)
  | .layerState => do
      let layer ← required "LAYER_NAME" ""
      let hide ← flag "HIDE" false
      let unhide ← flag "UNHIDE" false
      if hide == unhide then object "HIDE" .visibilityUnclear
      pure (.layerState layer hide, none)
  | .templateLayer => do
      let source ← requiredText "SOURCE"
      let destination ← requiredText "DESTINATION"
      pure (.templateLayer source destination, none)
  | .changeMap => do
      let path ← required "PATH" ""
      let keepVariables ← flag "PRESERVE" false
      pure (.changeMap path keepVariables, none)
  | .closeMap => pure (.closeMap, none)
  | .quit => pure (.quit, none)

def node (name : String) (home : Namespace) (kindName : KindName) :
    Using (Node Reference) := do
  let _ ← take "NAME"
  let signal ← signal
  let priority ← priority
  let success ← if kindName.isTest then child "SUCCESS" else pure none
  let failure ← if kindName.isTest then child "FAILURE" else pure none
  let (kind, event) ← kind kindName
  let children := { success, failure, event : Children Reference }
  let children ←
    if kindName.takesNumbered then takeNumbered children
    else do
      refuseRest
      pure children
  pure { name, home, kind, signal, priority, children }

end Definition

/-- The definition of a node, or everything that is wrong with it. -/
def NodeEntry.define (entry : NodeEntry) (home : Namespace) :
    Except (List LoadError) (Node Reference) :=
  match KindName.parse? entry.kind with
  | none => .error [.unknownKind entry.name entry.kind]
  | some kindName =>
      let (node, bag) :=
        (Definition.node entry.name home kindName).run (.ofEntries entry.properties)
      if bag.problems.isEmpty then .ok node
      else .error (bag.problems.map (.property entry.name))

end Stagecraft
