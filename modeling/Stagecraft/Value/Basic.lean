/-
Module: Stagecraft.Value.Basic
Purpose: The values that properties and variables hold, and what values each
  type of parameter accepts.
Main exports:
  Value, Value.typeName, Value.display, Accepts
-/
import Stagecraft.Number.Layout
import Stagecraft.Value.Color

namespace Stagecraft

/-- A value of a property or a variable. -/
inductive Value where
  | bool (b : Bool)
  | int (n : Int32)
  | float (x : Float32)
  | text (s : String)
  | color (c : Color)
  | file (path : String)
deriving DecidableEq, Inhabited

namespace Value

/-- The name of the type of a value, as messages give it. -/
def typeName : Value → String
  | .bool _ => "bool"
  | .int _ => "int"
  | .float _ => "float"
  | .text _ => "string"
  | .color _ => "color"
  | .file _ => "file"

/-- The number that a value stands for. -/
def number? : Value → Option Float32
  | .float x => some x
  | .int n => some (Number.singleOfInt n.toInt)
  | _ => none

def int? : Value → Option Int32
  | .int n => some n
  | _ => none

def bool? : Value → Option Bool
  | .bool b => some b
  | _ => none

/-- The text that a value holds; a file is named by a text. -/
def text? : Value → Option String
  | .text s => some s
  | .file path => some path
  | _ => none

def displayInt (n : Int) : String :=
  Number.withSign (n < 0) (String.ofList (Text.decimal n.natAbs))

def displayBool : Bool → String
  | true => "true"
  | false => "false"

/-- The text of a value, as it is joined to other texts. -/
def display : Value → String
  | .bool b => displayBool b
  | .int n => displayInt n.toInt
  | .float x => Number.writeSingle x
  | .text s => s
  | .color c => c.write
  | .file path => path

end Value

/-- Which values a parameter of a type accepts, and as what.  `expectation`
names the type in messages. -/
class Accepts (α : Type) where
  expectation : String
  accept? : Value → Option α

namespace Accepts

/-- Numbers accept both numeric types. -/
instance : Accepts Float32 where
  expectation := "float"
  accept? := Value.number?

/-- Whole numbers accept a float without fraction; one outside the range of
whole numbers becomes the nearer end of it. -/
instance : Accepts Int32 where
  expectation := "int"
  accept?
    | .int n => some n
    | .float x => if Number.isWholeSingle x then some (Number.int32OfSingle x) else none
    | _ => none

/-- Truth values accept nothing else. -/
instance : Accepts Bool where
  expectation := "bool"
  accept? := Value.bool?

/-- Texts accept the name of a file. -/
instance : Accepts String where
  expectation := "string"
  accept? := Value.text?

/-- Colors accept the text of a color. -/
instance : Accepts Color where
  expectation := "color"
  accept?
    | .color c => some c
    | .text s => Color.parse? s
    | _ => none

/-- A parameter of any type accepts every value. -/
instance : Accepts Value where
  expectation := "value"
  accept? := some

end Accepts

end Stagecraft
