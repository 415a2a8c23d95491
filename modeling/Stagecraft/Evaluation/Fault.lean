/-
Module: Stagecraft.Evaluation.Fault
Purpose: What can go wrong while a node is evaluated.
Main exports:
  Fault, Fault.message, NodeFault, NodeFault.message
-/
import Stagecraft.Graph.LoadError

namespace Stagecraft

/-- Why a node fails instead of doing its work. -/
inductive Fault where
  | variable (error : VariableError)
  | lookup (error : LookupError)
  | dynamicTarget (name : String)
  | depthExceeded (limit : Nat)
  | incomparable (left right : String)
  | invalidParameter (property reason : String)
deriving Repr, DecidableEq, Inhabited

/-- The wording shown to the user. -/
def Fault.message : Fault → String
  | .variable error => error.message
  | .lookup error => error.message
  | .dynamicTarget name => "dynamic reference '*" ++ name ++ "' does not name a node"
  | .depthExceeded limit =>
      "evaluation exceeded the depth limit of " ++ String.ofList (Text.decimal limit)
  | .incomparable left right =>
      "comparison between " ++ left ++ " and " ++ right ++ " is not supported"
  | .invalidParameter property reason => "invalid " ++ property ++ ": " ++ reason

/-- A fault and the name of the node that failed. -/
structure NodeFault where
  node : String
  fault : Fault
deriving Repr, DecidableEq, Inhabited

def NodeFault.message (fault : NodeFault) : String :=
  "node '" ++ fault.node ++ "': " ++ fault.fault.message

end Stagecraft
