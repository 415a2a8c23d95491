/-
Module: Stagecraft.Value.Store
Purpose: Variables and the three ways in which they take a new value.
Main exports:
  SetMode, SetMode.combine?, VariableStore, VariableStore.next,
  VariableStore.change
-/
import Stagecraft.Dictionary
import Stagecraft.Value.Parameter

namespace Stagecraft

/-- How a variable takes a new value. -/
inductive SetMode where
  | assign
  | add
  | multiply
deriving Repr, DecidableEq, Inhabited

namespace Value

/-!
Whole numbers of 32 bits wrap around.  As soon as a float takes part the other
number becomes a float as well.
-/

/-- The sum of two numbers, or a text continued by the display of any value. -/
def plus? : Value → Value → Option Value
  | .int a, .int b => some (.int (a + b))
  | .text s, operand => some (.text (s ++ operand.display))
  | current, operand => do
      let a ← current.number?
      let b ← operand.number?
      pure (.float (a + b))

def times? : Value → Value → Option Value
  | .int a, .int b => some (.int (a * b))
  | current, operand => do
      let a ← current.number?
      let b ← operand.number?
      pure (.float (a * b))

end Value

namespace SetMode

/-- The new value of a variable that holds `current`. -/
def combine? : SetMode → Value → Value → Option Value
  | assign, _, operand => some operand
  | add, current, operand => current.plus? operand
  | multiply, current, operand => current.times? operand

/-- The new value of a number that is kept outside of the variables. -/
def combineNumber : SetMode → Float32 → Float32 → Float32
  | assign, _, operand => operand
  | add, current, operand => current + operand
  | multiply, current, operand => current * operand

end SetMode

/-- Variables by name. -/
abbrev VariableStore := Dictionary Value

namespace VariableStore

/-- The value of a variable, or why there is none. -/
def get (store : VariableStore) (name : String) : Except VariableError Value :=
  match store.find? name with
  | some value => .ok value
  | none => .error (.notFound name)

/-- The value that a variable takes.  One that does not exist yet takes the
operand itself, whatever the mode. -/
def next (store : VariableStore) (mode : SetMode) (name : String) (operand : Value) :
    Except VariableError Value :=
  match store.find? name with
  | none => .ok operand
  | some current =>
      match mode.combine? current operand with
      | some next => .ok next
      | none => .error (.invalidOperation name current.typeName operand.typeName)

/-- Change a variable. -/
def change (store : VariableStore) (mode : SetMode) (name : String) (operand : Value) :
    Except VariableError VariableStore :=
  (store.next mode name operand).map fun next => store.insert name next

end VariableStore

end Stagecraft
