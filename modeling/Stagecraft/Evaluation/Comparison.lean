/-
Module: Stagecraft.Evaluation.Comparison
Purpose: Comparison of two values under a choice of relations.
Main exports:
  Relations.accept, Value.compare
-/
import Stagecraft.Evaluation.Fault

namespace Stagecraft

/-- Whether one of the relations holds of two values in a given order.  Values
without an order are only different. -/
def Relations.accept (relations : Relations) : Option Ordering → Bool
  | some .eq => relations.eq
  | some .lt => relations.ne || relations.lt
  | some .gt => relations.ne || relations.gt
  | none => relations.ne

/-- The order of two floats; "not a number" has none. -/
def singleOrdering? (a b : Float32) : Option Ordering :=
  if a < b then some .lt
  else if b < a then some .gt
  else if a == b then some .eq
  else none

/-- The order of two values by `<` and equality. -/
def orderingOf [LT α] [DecidableLT α] [DecidableEq α] (a b : α) : Ordering :=
  if a < b then .lt else if a = b then .eq else .gt

namespace Value

/-- The order of two values that have one: numbers by size, texts and files by
their characters. -/
def ordering? : Value → Value → Option (Option Ordering)
  | .int a, .int b => some (some (orderingOf a b))
  | left, right =>
      match left.number?, right.number? with
      | some a, some b => some (singleOrdering? a b)
      | _, _ =>
          match left.text?, right.text? with
          | some a, some b => some (some (orderingOf a b))
          | _, _ => none

/-- Whether two values are the same, for types without an order. -/
def same? : Value → Value → Option Bool
  | .bool a, .bool b => some (a == b)
  | .color a, .color b => some (a == b)
  | _, _ => none

/-- Whether one of the relations holds of two values.  Truth values and colors
can only be told apart, and values of different sorts cannot be compared. -/
def compare (relations : Relations) (left right : Value) : Except Fault Bool :=
  match left.ordering? right with
  | some order => .ok (relations.accept order)
  | none =>
      match left.same? right with
      | some same =>
          if relations.lt || relations.gt then
            .error (.incomparable left.typeName right.typeName)
          else .ok (if same then relations.eq else relations.ne)
      | none => .error (.incomparable left.typeName right.typeName)

end Value

end Stagecraft
