/-
Module: Stagecraft.Input.State
Purpose: What every key and pointer button does during one tick, found from the
  keys that are held.
Main exports:
  InputState, InputState.update, InputState.key, InputState.button
-/
import Stagecraft.Input.Hold

namespace Stagecraft

/-!
An input state keeps the keys that are held and those that were let go with
this tick.  All other keys are up.
-/

/-- What the keys do during one tick. -/
structure InputState where
  edges : List (KeyName × KeyEdge) := []
deriving Inhabited

namespace InputState

def key (input : InputState) (key : KeyName) : KeyEdge :=
  (input.edges.lookup key).getD {}

def isDown (input : InputState) (key : KeyName) : Bool := (input.key key).held

def heldKeys (input : InputState) : List KeyName :=
  (input.edges.filter fun entry => entry.2.held).map Prod.fst

/-- Go on to the next tick, in which the keys `down` are held. -/
def update (input : InputState) (down : List KeyName) : InputState :=
  let pressed := down.map fun key => (key, { held := true, pressed := !input.isDown key })
  let released := (input.heldKeys.filter fun key => !down.contains key).map fun key =>
    (key, { released := true })
  { edges := pressed ++ released }

/-- The key that stands for a pointer button. -/
def buttonKey (index : Nat) : KeyName :=
  { text := "MOUSE" ++ String.ofList (Text.decimal index) }

/-- What a pointer button does.  There are five of them, numbered from one. -/
def button (input : InputState) (index : Nat) : ButtonState :=
  if 1 ≤ index ∧ index ≤ 5 then
    let edge := input.key (buttonKey index)
    { pressed := edge.pressed, released := edge.released, down := edge.held }
  else {}

end InputState

end Stagecraft
