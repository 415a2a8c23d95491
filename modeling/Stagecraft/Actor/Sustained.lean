/-
Module: Stagecraft.Actor.Sustained
Purpose: The actions that an actor keeps up while their keys are held.
Main exports:
  SustainedAction, SustainedActions, SustainedActions.activate,
  SustainedActions.ranked
-/
import Stagecraft.Graph.Template

namespace Stagecraft

/-- An action that lasts while its key is held.  `seq` tells how many actions
began before it. -/
structure SustainedAction where
  event : NodeId
  priority : Priority
  seq : Nat
  stopEvent : Option NodeId
deriving Repr, DecidableEq, Inhabited

/-- The actions of an actor under their keys, in the order in which they
began. -/
structure SustainedActions where
  active : List (KeyName × SustainedAction) := []
  nextSeq : Nat := 0
deriving Inhabited

namespace SustainedActions

def find? (actions : SustainedActions) (key : KeyName) : Option SustainedAction :=
  actions.active.lookup key

def isActive (actions : SustainedActions) (key : KeyName) : Bool :=
  (actions.find? key).isSome

def activate (actions : SustainedActions) (binding : KeyBinding) (event : NodeId) :
    SustainedActions :=
  let action : SustainedAction :=
    { event
      priority := binding.priority
      seq := actions.nextSeq
      stopEvent := binding.stopEvent }
  { active := actions.active.filter (fun entry => entry.1 != binding.key) ++
      [(binding.key, action)]
    nextSeq := actions.nextSeq + 1 }

def remove (actions : SustainedActions) (key : KeyName) : SustainedActions :=
  { actions with active := actions.active.filter fun entry => entry.1 != key }

/-- Whether an action comes before another one: the greater priority does, and
of equal priorities the one that began later. -/
def outranks (first second : SustainedAction) : Bool :=
  second.priority.rank < first.priority.rank ||
    first.priority.rank == second.priority.rank && second.seq < first.seq

/-- Put an action in front of the first one that it outranks. -/
def placeByRank (entry : KeyName × SustainedAction) :
    List (KeyName × SustainedAction) → List (KeyName × SustainedAction)
  | [] => [entry]
  | first :: rest =>
      if outranks entry.2 first.2 then entry :: first :: rest
      else first :: placeByRank entry rest

/-- The actions by rank, highest first. -/
def ranked (actions : SustainedActions) : List (KeyName × SustainedAction) :=
  actions.active.foldr placeByRank []

end SustainedActions

end Stagecraft
