/-
Module: Stagecraft.Graph.Behavior
Purpose: The linked behaviour graph that all actors of a stage share.
Main exports:
  BehaviorGraph, BehaviorGraph.lookup, BehaviorGraph.resolve?,
  BehaviorGraph.template, scoped?, isMapOnly
-/
import Stagecraft.Dictionary
import Stagecraft.Graph.Catalogue

namespace Stagecraft

/-- The node of a name as seen from a namespace: the one declared there, or
else the one declared for the map.  With `mapOnly` the map alone is asked. -/
def scoped? (find : Namespace → String → Option NodeId) (home : Namespace) (name : String)
    (mapOnly : Bool) : Option NodeId :=
  let own :=
    match home with
    | .actor _ => if mapOnly then none else find home name
    | .map => none
  own.or (find .map name)

/-- Whether a child of a node is looked up in the map alone: the event of an
engine wrapper is. -/
def isMapOnly (kind : NodeKind) (role : Role) : Bool :=
  role == .event && kind == .engineWrapper

/-- A linked graph.  `directory` gives the namespace and the name of each
number. -/
structure BehaviorGraph where
  nodes : List (Node Edge) := []
  directory : List (Namespace × String) := []
  templates : Dictionary Template := .empty
deriving Inhabited

namespace BehaviorGraph

def find? (graph : BehaviorGraph) (home : Namespace) (name : String) : Option NodeId :=
  graph.directory.idxOf? (home, name)

/-- The number of a name that is declared in a namespace, or why there is
none. -/
def lookup (graph : BehaviorGraph) (home : Namespace) (name : String) :
    Except LookupError NodeId :=
  match graph.find? home name with
  | some id => .ok id
  | none => .error (.nameNotFound home name)

/-- The node of a name as seen from a namespace. -/
def resolve? (graph : BehaviorGraph) (home : Namespace) (name : String) (mapOnly : Bool) :
    Option NodeId :=
  scoped? graph.find? home name mapOnly

/-- The template of a name, or why there is none. -/
def template (graph : BehaviorGraph) (name : String) : Except LookupError Template :=
  match graph.templates.find? name with
  | some template => .ok template
  | none => .error (.templateNotFound name)

end BehaviorGraph

end Stagecraft
