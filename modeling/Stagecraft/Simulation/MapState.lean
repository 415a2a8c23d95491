/-
Module: Stagecraft.Simulation.MapState
Purpose: What all actors of a map share: variables, layers, overlays, and the
  wish to leave the map.
Main exports:
  MapSwitch, MapState, MapState.setHidden, MapState.apply,
  MapState.takePending, MapState.shouldStop
-/
import Stagecraft.Evaluation.Request
import Stagecraft.Value.Store

namespace Stagecraft

/-- A map to switch to, and whether the variables stay. -/
structure MapSwitch where
  path : String
  keepVariables : Bool
deriving Repr, DecidableEq, Inhabited

/-- The state of a map.  Overlays and layer copies stand in the order in which
they were asked for. -/
structure MapState where
  store : VariableStore := .empty
  current : Option String := none
  pending : Option MapSwitch := none
  hiddenLayers : Dictionary Unit := .empty
  overlays : List TextOverlay := []
  copies : List (String × String) := []
  closeRequested : Bool := false
  quitRequested : Bool := false
deriving Inhabited

namespace MapState

def isHidden (map : MapState) (layer : String) : Bool := map.hiddenLayers.contains layer

def setHidden (map : MapState) (layer : String) (hidden : Bool) : MapState :=
  if hidden then { map with hiddenLayers := map.hiddenLayers.insert layer () }
  else { map with hiddenLayers := map.hiddenLayers.erase layer }

/-- Do what a request asks of the map.  Of several switches the last one
counts.  Sounds and actors are no matter of the map. -/
def apply (map : MapState) : Request → MapState
  | .changeMap path keepVariables => { map with pending := some { path, keepVariables } }
  | .closeMap => { map with closeRequested := true }
  | .quit => { map with quitRequested := true }
  | .instantiateTemplate source destination =>
      { map with copies := map.copies ++ [(source, destination)] }
  | .setLayerHidden layer hidden => map.setHidden layer hidden
  | .spawnText overlay => { map with overlays := map.overlays ++ [overlay] }
  | .playSound _ | .playMusic _ | .spawnActor _ => map

/-- Switch to another map.  Its layers begin afresh. -/
def switchTo (map : MapState) (switch : MapSwitch) : MapState :=
  { map with
    store := if switch.keepVariables then map.store else .empty
    current := some switch.path
    pending := none
    hiddenLayers := .empty
    overlays := []
    copies := [] }

/-- Make the pending switch, if there is one. -/
def takePending (map : MapState) : Option MapSwitch × MapState :=
  match map.pending with
  | none => (none, map)
  | some switch => (some switch, map.switchTo switch)

/-- Whether the run is to end. -/
def shouldStop (map : MapState) : Bool := map.quitRequested || map.closeRequested

end MapState

end Stagecraft
