/-
Module: Stagecraft.Graph.LoadError
Purpose: Everything that can be wrong with a table document, and how it is
  reported.
Main exports:
  Objection, PropertyProblem, BindingObjection, LoadError, LoadError.message,
  LoadError.offender?, LookupError, report
-/
import Stagecraft.Document.Property
import Stagecraft.Graph.Node

namespace Stagecraft

/-- Why a property of a node or binding is refused. -/
inductive Objection where
  | meaningless (error : PropertyError)
  | wrongType (mismatch : TypeMismatch)
  | unknownSignal (text : String)
  | unknownPriority (text : String)
  | unknownAnimation (text : String)
  | unknownDirection (text : String)
  | notLiteral
  | notNodeName (found : String)
  | notPositive
  | outsideUnit
  | negative
  | conflicts (other : String)
  | severalSpans
  | unknownButton
  | noRelation
  | relationConflict
  | visibilityUnclear
  | unknownResponse
  | variableReference (name : String)

def Objection.message : Objection → String
  | .meaningless error => error.message
  | .wrongType mismatch => mismatch.message
  | .unknownSignal text => "unknown signal '" ++ text ++ "'"
  | .unknownPriority text => "unknown priority '" ++ text ++ "'"
  | .unknownAnimation text => "unknown animation type '" ++ text ++ "'"
  | .unknownDirection text => "unknown direction '" ++ text ++ "'"
  | .notLiteral => "must be a literal value"
  | .notNodeName found => "expected node name, found " ++ found
  | .notPositive => "must be positive"
  | .outsideUnit => "must be in [0, 1)"
  | .negative => "must not be negative"
  | .conflicts other => "cannot be combined with " ++ other
  | .severalSpans => "only one of GAME_FRAMES, CYCLES, ANIMATION_FRAMES"
  | .unknownButton => "must be between 1 and 5"
  | .noRelation => "at least one comparison operator is required"
  | .relationConflict => "cannot be combined with < or >"
  | .visibilityUnclear => "exactly one of HIDE and UNHIDE must be set"
  | .unknownResponse => "unknown response"
  | .variableReference name => "dynamic reference '*" ++ name ++ "' is not allowed here"

/-- What is wrong with the properties of a node or binding. -/
inductive PropertyProblem where
  | unknown (property : String)
  | missing (property : String)
  | invalid (property : String) (objection : Objection)
  | childKey (key : String)

def PropertyProblem.message (owner : String) : PropertyProblem → String
  | .unknown property => "node '" ++ owner ++ "' does not accept property '" ++ property ++ "'"
  | .missing property =>
      "node '" ++ owner ++ "' is missing required property '" ++ property ++ "'"
  | .invalid property objection =>
      "node '" ++ owner ++ "' has invalid property '" ++ property ++ "': " ++
        objection.message
  | .childKey key => "node '" ++ owner ++ "' has non-numeric child key '" ++ key ++ "'"

/-- Why a key binding is refused. -/
inductive BindingObjection where
  | emptyKey
  | property (problem : PropertyProblem)
  | sustainedWithEdge
  | stopWithoutSustained

def BindingObjection.message (key : String) : BindingObjection → String
  | .emptyKey => "empty key code"
  | .property problem => problem.message key
  | .sustainedWithEdge => "SUSTAINED cannot be combined with UP or DOWN"
  | .stopWithoutSustained => "STOP_EVENT requires SUSTAINED"

/-- What is wrong with a table document. -/
inductive LoadError where
  | missingName (home : Namespace)
  | duplicateName (home : Namespace) (name : String)
  | unknownKind (name kind : String)
  | property (owner : String) (problem : PropertyProblem)
  | unresolved (home : Namespace) (source target : String)
  | cycle (names : List String)
  | duplicateTemplate (name : String)
  | unknownTemplate (name template : String)
  | invalidBinding (template key : String) (objection : BindingObjection)

namespace LoadError

/-- The wording shown to the user. -/
def message : LoadError → String
  | missingName home => "node in " ++ home.describe ++ " has no NAME property"
  | duplicateName home name => "duplicate node name '" ++ name ++ "' in " ++ home.describe
  | unknownKind name kind => "node '" ++ name ++ "' has unknown kind '" ++ kind ++ "'"
  | property owner problem => problem.message owner
  | unresolved home source target =>
      "'" ++ source ++ "' in " ++ home.describe ++ " references unknown node '" ++ target ++ "'"
  | cycle names => "reference cycle: " ++ String.intercalate " -> " names
  | duplicateTemplate name => "actor template '" ++ name ++ "' is declared twice"
  | unknownTemplate name template =>
      "node '" ++ name ++ "' spawns unknown actor template '" ++ template ++ "'"
  | invalidBinding template key objection =>
      "key binding for '" ++ key ++ "' in template '" ++ template ++ "' is invalid: " ++
        objection.message key

/-- The name that an error is about, if it is about one. -/
def offender? : LoadError → Option String
  | missingName _ => none
  | duplicateName _ name => some name
  | unknownKind name _ => some name
  | property owner _ => some owner
  | unresolved _ _ target => some target
  | cycle names => names.head?
  | duplicateTemplate name => some name
  | unknownTemplate _ template => some template
  | invalidBinding _ key _ => some key

/-- All errors of a document as one text. -/
def report (errors : List LoadError) : String :=
  String.ofList (Text.decimal errors.length) ++ " load error(s)" ++
    String.join (errors.map fun error => "\n  - " ++ error.message)

end LoadError

/-- A name that is asked for but not declared. -/
inductive LookupError where
  | nameNotFound (home : Namespace) (name : String)
  | templateNotFound (name : String)
deriving Repr, DecidableEq, Inhabited

def LookupError.message : LookupError → String
  | .nameNotFound home name => "no node named '" ++ name ++ "' in " ++ home.describe
  | .templateNotFound name => "no actor template named '" ++ name ++ "'"

end Stagecraft
