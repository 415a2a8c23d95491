/-
Module: Stagecraft.Document.Property
Purpose: What the properties of a document mean: typed values, or variables to
  be read later.
Main exports:
  PropertyError, PropertyEntry.interpret
-/
import Stagecraft.Document.Basic
import Stagecraft.Number.Reading
import Stagecraft.Value.Parameter

namespace Stagecraft

/-- Why the value of a property has no meaning. -/
inductive PropertyError where
  | mismatch (expected : String) (found : Json)
  | unknownType (name : String)

def PropertyError.message : PropertyError → String
  | .mismatch expected found => "expected " ++ expected ++ ", found " ++ found.write
  | .unknownType name => "unknown property type '" ++ name ++ "'"

/-- The types that a property may declare. -/
inductive DeclaredType where
  | int
  | float
  | bool
  | color
  | file
  | text
deriving Repr, DecidableEq, Inhabited

namespace DeclaredType

def name : DeclaredType → String
  | .int => "int"
  | .float => "float"
  | .bool => "bool"
  | .color => "color"
  | .file => "file"
  | .text => "string"

def ofName? (name : String) : Option DeclaredType :=
  [int, float, bool, color, file, text].find? fun declared => declared.name == name

/-- The value that a JSON value has under a declared type.  Numbers and truth
values may also be written as texts, with blanks around them; a whole number
keeps its low 32 bits. -/
def value? : DeclaredType → Json → Option Value
  | .int, .number (.whole n) =>
      if n ≤ Text.Range.int64.greatest then some (.int (Int32.ofInt n)) else none
  | .int, .text s =>
      (Text.integer? Text.Range.int32 (Text.trim s)).map fun n => .int (Int32.ofInt n)
  | .float, .number n => some (.float (Number.narrow n.toDouble))
  | .float, .text s => (Number.single? (Text.trim s)).map .float
  | .bool, .bool b => some (.bool b)
  | .bool, .text s =>
      if Text.trim s = "true" then some (.bool true)
      else if Text.trim s = "false" then some (.bool false)
      else none
  | .color, .text s => (Color.parse? s).map .color
  | .file, .text s => some (.file s)
  | .text, .text s => some (.text s)
  | _, _ => none

end DeclaredType

/-- The value that a JSON value has by itself.  A number that is no signed
whole number of 64 bits is a float. -/
def Json.plainValue? : Json → Option Value
  | .bool b => some (.bool b)
  | .number (.whole n) =>
      if n ≤ Text.Range.int64.greatest then some (.int (Int32.ofInt n))
      else some (.float (Number.narrow (Number.doubleOfInt n)))
  | .number (.real x) => some (.float (Number.narrow x))
  | .text s => some (.text s)
  | _ => none

/-- The variable that a text names when it begins with a star. -/
def starredName? (text : String) : Option String :=
  match text.toList with
  | '*' :: rest => some (String.ofList rest)
  | _ => none

namespace PropertyEntry

/-- The meaning of a value that is no variable. -/
def literal (entry : PropertyEntry) : Except PropertyError Value :=
  match entry.declared with
  | none =>
      match entry.value.plainValue? with
      | some value => .ok value
      | none => .error (.mismatch "string, number or bool" entry.value)
  | some name =>
      match DeclaredType.ofName? name with
      | none => .error (.unknownType name)
      | some declared =>
          match declared.value? entry.value with
          | some value => .ok value
          | none => .error (.mismatch name entry.value)

/-- The meaning of a property.  A text that begins with a star names a
variable, whatever type is declared. -/
def interpret (entry : PropertyEntry) : Except PropertyError (Parameter Value) :=
  let starred : Option String :=
    match entry.value with
    | .text s => starredName? s
    | _ => none
  match starred with
  | some name => .ok (.variable name)
  | none => entry.literal.map .literal

end PropertyEntry

end Stagecraft
