/-
Module: Stagecraft.Simulation.Turn
Purpose: What an actor does in one tick, and all actors one after another.
Main exports:
  Cue, TurnState, Surroundings.respond, Surroundings.turn, Surroundings.turns
-/
import Stagecraft.Evaluation.KeyDispatch

namespace Stagecraft

/-!
In its turn an actor runs its entering event, if this is its first tick, then
the events of its keys, then its standing event, and then its contact event if
it touches another actor.  As soon as one of them makes the actor leave, its
turn is over.
-/

/-- Why an event was run, and for which actor. -/
inductive Cue where
  | response (actor : ActorId) (occasion : Occasion) (event : NodeId)
  | keys (actor : ActorId) (report : DispatchReport)

/-- What the turns of a tick change apart from the actors: the variables of the
map, the requests issued so far, the states of animations, and what was run, in
order. -/
structure TurnState (σ : Type) where
  map : VariableStore
  requests : List Request := []
  animation : σ
  cues : List Cue := []

namespace TurnState

variable {σ : Type}

def scene (state : TurnState σ) (actor : Actor) : Scene σ :=
  { actor, map := state.map, requests := state.requests, animation := state.animation }

/-- The state after an actor has changed its scene on some cue. -/
def after (state : TurnState σ) (scene : Scene σ) (cue : Cue) : Actor × TurnState σ :=
  (scene.actor,
    { map := scene.map
      requests := scene.requests
      animation := scene.animation
      cues := state.cues ++ [cue] })

end TurnState

namespace Surroundings

variable {σ : Type} (surroundings : Surroundings σ)

/-- Run the event of an occasion.  Nobody who is about to leave responds. -/
def respond (template : Template) (occasion : Occasion) (actor : Actor)
    (state : TurnState σ) : Actor × TurnState σ :=
  match actor.isLeaving, template.responses.event? occasion with
  | false, some event =>
      let (_, scene) := surroundings.evaluateNode event {} (state.scene actor)
      state.after scene (.response actor.id occasion event)
  | _, _ => (actor, state)

/-- Run the events of the keys. -/
def respondToKeys (template : Template) (keys : KeyName → KeyEdge) (actor : Actor)
    (state : TurnState σ) : Actor × TurnState σ :=
  if actor.isLeaving || template.bindings.isEmpty then (actor, state)
  else
    let (report, scene) := surroundings.dispatch template keys (state.scene actor)
    state.after scene (.keys actor.id report)

/-- Run the entering event of an actor in its first tick. -/
def enter (template : Template) (actor : Actor) (state : TurnState σ) :
    Actor × TurnState σ :=
  if actor.hasEntered then (actor, state)
  else surroundings.respond template .onSpawn { actor with hasEntered := true } state

/-- The turn of an actor.  Actors that are about to leave, and actors whose
template is unknown, have none. -/
def turn (keys : KeyName → KeyEdge) (touching : ActorId → Bool) (actor : Actor)
    (state : TurnState σ) : Actor × TurnState σ :=
  if actor.isLeaving then (actor, state)
  else
    match surroundings.graph.template actor.template with
    | .error _ => (actor, state)
    | .ok template =>
        let (actor, state) := surroundings.enter template actor state
        let (actor, state) := surroundings.respondToKeys template keys actor state
        let (actor, state) := surroundings.respond template .onAlways actor state
        if touching actor.id then surroundings.respond template .onCollision actor state
        else (actor, state)

def turns (keys : KeyName → KeyEdge) (touching : ActorId → Bool) :
    List Actor → TurnState σ → List Actor × TurnState σ
  | [], state => ([], state)
  | actor :: rest, state =>
      let (actor, state) := surroundings.turn keys touching actor state
      let (rest, state) := turns keys touching rest state
      (actor :: rest, state)

end Surroundings

end Stagecraft
