/-
Module: Stagecraft.Input.Key
Purpose: Names of physical keys and what a key does during one tick.
Main exports:
  KeyName, KeyName.ofText, KeyEdge, ButtonState
-/
import Stagecraft.Text.Blank

namespace Stagecraft

/-- The name of a physical key. -/
structure KeyName where
  text : String
deriving Repr, DecidableEq, Inhabited

namespace KeyName

/-- The key that a text names: blanks around it and letter case do not
matter. -/
def ofText (text : String) : KeyName := { text := Text.upper (Text.trim text) }

def isEmpty (key : KeyName) : Bool := key.text.isEmpty

end KeyName

/-- A key during one tick: whether it is held, and whether it went down or up
with this tick. -/
structure KeyEdge where
  held : Bool := false
  pressed : Bool := false
  released : Bool := false
deriving Repr, DecidableEq, Inhabited

/-- A pointer button during one tick. -/
structure ButtonState where
  pressed : Bool := false
  released : Bool := false
  down : Bool := false
deriving Repr, DecidableEq, Inhabited

end Stagecraft
