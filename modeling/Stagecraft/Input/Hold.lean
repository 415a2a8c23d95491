/-
Module: Stagecraft.Input.Hold
Purpose: Scripts of held keys, and their written form.
Main exports:
  KeyHold, HoldError, KeyHold.parse, KeyHold.covers, keysDown
-/
import Stagecraft.Input.Key
import Stagecraft.Text.Numeral

namespace Stagecraft

/-- A key that is held from one tick through another.  The first tick of a run
has the number one. -/
structure KeyHold where
  key : KeyName
  start : Nat
  stop : Nat
deriving Repr, DecidableEq, Inhabited

/-- Why a text is no hold. -/
inductive HoldError where
  | shape (text : String)
  | startTick (text : String) (error : Text.NumeralError)
  | endTick (text : String) (error : Text.NumeralError)
  | missingKey (text : String)
  | reversed (start stop : Nat)
deriving Repr, DecidableEq, Inhabited

def HoldError.message : HoldError → String
  | shape text => "expected KEY:FROM:TO, got '" ++ text ++ "'"
  | startTick text error => "invalid start tick '" ++ text ++ "': " ++ error.message
  | endTick text error => "invalid end tick '" ++ text ++ "': " ++ error.message
  | missingKey text => "missing key name in '" ++ text ++ "'"
  | reversed start stop =>
      "end tick " ++ String.ofList (Text.decimal stop) ++ " is before start tick " ++
        String.ofList (Text.decimal start)

/-- The part of a text in front of its last colon and the part behind it. -/
def splitLastColon (text : List Char) : Option (List Char × List Char) :=
  let isText := fun c : Char => c != ':'
  let behind := text.reverse.takeWhile isText
  match text.reverse.dropWhile isText with
  | [] => none
  | _ :: front => some (front.reverse, behind.reverse)

/-- The number of a tick, with blanks around it. -/
def readTick (text : List Char) : Except Text.NumeralError Nat :=
  (Text.readInteger .word64 (Text.trimChars text)).map Int.toNat

namespace KeyHold

/-- Read a hold: a key and two ticks, separated by the last two colons of the
text. -/
def parse (text : String) : Except HoldError KeyHold := do
  let some (front, stopText) := splitLastColon text.toList | .error (.shape text)
  let some (keyText, startText) := splitLastColon front | .error (.shape text)
  let start ← (readTick startText).mapError (.startTick (String.ofList startText))
  let stop ← (readTick stopText).mapError (.endTick (String.ofList stopText))
  let key := KeyName.ofText (String.ofList keyText)
  if key.isEmpty then .error (.missingKey text)
  else if stop < start then .error (.reversed start stop)
  else .ok { key, start, stop }

/-- Whether a key is held during a tick. -/
def covers (hold : KeyHold) (tick : Nat) : Bool := hold.start ≤ tick && tick ≤ hold.stop

end KeyHold

/-- The keys that a script holds during a tick, each one once. -/
def keysDown (script : List KeyHold) (tick : Nat) : List KeyName :=
  ((script.filter fun hold => hold.covers tick).map KeyHold.key).eraseDups

end Stagecraft
