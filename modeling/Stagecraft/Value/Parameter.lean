/-
Module: Stagecraft.Value.Parameter
Purpose: Parameters that are fixed in the document or read from a variable when
  they are used.
Main exports:
  Parameter, VariableError, TypeMismatch, Parameter.ofProperty,
  Parameter.resolve
-/
import Stagecraft.Value.Basic

namespace Stagecraft

/-- A parameter: fixed, or the current value of a variable. -/
inductive Parameter (α : Type) where
  | literal (value : α)
  | variable (name : String)
deriving DecidableEq, Inhabited

/-- A value of one type where another is wanted. -/
structure TypeMismatch where
  expected : String
  found : String
deriving Repr, DecidableEq, Inhabited

def TypeMismatch.message (mismatch : TypeMismatch) : String :=
  "expected " ++ mismatch.expected ++ ", found " ++ mismatch.found

/-- What can go wrong with a variable. -/
inductive VariableError where
  | notFound (name : String)
  | typeMismatch (name : String) (mismatch : TypeMismatch)
  | invalidOperation (name current operand : String)
deriving Repr, DecidableEq, Inhabited

def VariableError.message : VariableError → String
  | .notFound name => "variable '" ++ name ++ "' not found"
  | .typeMismatch name mismatch =>
      "variable '" ++ name ++ "' holds " ++ mismatch.found ++ ", expected " ++
        mismatch.expected
  | .invalidOperation name current operand =>
      "cannot combine " ++ current ++ " with " ++ operand ++ " in '" ++ name ++ "'"

namespace Parameter

/-- Turn a property into a parameter of a type.  The type of a fixed value is
checked now, that of a variable when it is read. -/
def ofProperty (α : Type) [Accepts α] : Parameter Value → Except TypeMismatch (Parameter α)
  | .variable name => .ok (.variable name)
  | .literal value =>
      match Accepts.accept? value with
      | some accepted => .ok (.literal accepted)
      | none =>
          .error { expected := Accepts.expectation α, found := value.typeName }

/-- The current value of a parameter, with `lookup` giving the variables. -/
def resolve {α : Type} [Accepts α] (lookup : String → Option Value) :
    Parameter α → Except VariableError α
  | .literal value => .ok value
  | .variable name =>
      match lookup name with
      | none => .error (.notFound name)
      | some value =>
          match Accepts.accept? value with
          | some accepted => .ok accepted
          | none =>
              .error (.typeMismatch name
                { expected := Accepts.expectation α, found := value.typeName })

/-- A fixed parameter does not look at the variables. -/
@[simp] theorem resolve_literal {α : Type} [Accepts α] (lookup : String → Option Value)
    (value : α) : (literal value).resolve lookup = .ok value := rfl

end Parameter

end Stagecraft
