/-
Module: Stagecraft.Json.Basic
Purpose: JSON values and their compact text.
Main exports:
  Json, Json.Number, Json.write, Json.member?
-/
import Stagecraft.Dictionary
import Stagecraft.Number.Layout

namespace Stagecraft

/-- A number of a document.  Numbers written without fraction and exponent that
fit 64 bits stay whole numbers; `1` and `1.0` are different. -/
inductive Json.Number where
  | whole (n : Int)
  | real (x : Float)

/-- A JSON value.  The members of an object have distinct names and stand in
the order of their names. -/
inductive Json where
  | null
  | bool (b : Bool)
  | number (n : Json.Number)
  | text (s : String)
  | list (items : List Json)
  | object (members : List (String × Json))

namespace Json

instance : Inhabited Json := ⟨.null⟩

def member? (name : String) : Json → Option Json
  | .object members => Entries.find? name members
  | _ => none

def Number.write : Number → String
  | .whole n =>
      Stagecraft.Number.withSign (n < 0) (String.ofList (Text.decimal n.natAbs))
  | .real x => Stagecraft.Number.writeDouble x

/-- The number rounded to double precision. -/
def Number.toDouble : Number → Float
  | .whole n => Stagecraft.Number.doubleOfInt n
  | .real x => x

/-- The number rounded to single precision in one step. -/
def Number.toSingle : Number → Float32
  | .whole n => Stagecraft.Number.singleOfInt n
  | .real x => Stagecraft.Number.narrow x

/-- How one character stands inside a quoted text.  Quotes, backslashes and
control characters are escaped; everything else stands for itself. -/
def escapeChar (c : Char) : List Char :=
  if c = '"' then ['\\', '"']
  else if c = '\\' then ['\\', '\\']
  else if c = '\x08' then ['\\', 'b']
  else if c = '\x0c' then ['\\', 'f']
  else if c = '\n' then ['\\', 'n']
  else if c = '\r' then ['\\', 'r']
  else if c = '\t' then ['\\', 't']
  else if c.toNat < 32 then
    ['\\', 'u', '0', '0', Text.hexDigit (c.toNat / 16), Text.hexDigit (c.toNat % 16)]
  else [c]

/-- A text between quotes. -/
def quote (s : String) : String :=
  String.ofList ('"' :: s.toList.flatMap escapeChar ++ ['"'])

mutual

/-- The compact text of a value: no blanks, members in the order of their
names. -/
def write : Json → String
  | .null => "null"
  | .bool true => "true"
  | .bool false => "false"
  | .number n => n.write
  | .text s => quote s
  | .list items => "[" ++ String.intercalate "," (writeItems items) ++ "]"
  | .object members => "\x7b" ++ String.intercalate "," (writeMembers members) ++ "\x7d"

def writeItems : List Json → List String
  | [] => []
  | item :: rest => item.write :: writeItems rest

def writeMembers : List (String × Json) → List String
  | [] => []
  | (name, value) :: rest => (quote name ++ ":" ++ value.write) :: writeMembers rest

end

end Json

end Stagecraft
