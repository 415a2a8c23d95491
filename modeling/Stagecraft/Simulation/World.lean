/-
Module: Stagecraft.Simulation.World
Purpose: The whole stage, tick by tick.
Main exports:
  Clock, AudioLog, World, World.setUp, World.spawn, World.behave, World.tick, World.runTicks
-/
import Stagecraft.Graph.Linking
import Stagecraft.Input.State
import Stagecraft.Settings.Basic
import Stagecraft.Simulation.MapState
import Stagecraft.Simulation.Turn

namespace Stagecraft

/-! ### The clock and the sounds -/

/-- The number of the current tick, none having passed at zero; its length and
the time since the first one, both scaled. -/
structure Clock where
  tick : Nat := 0
  delta : Float32 := 0
  elapsed : Float32 := 0
  scale : Float32 := 1
deriving Inhabited

/-- Begin the next tick, which lasts `time` before scaling. -/
def Clock.advance (clock : Clock) (time : Float32) : Clock :=
  let delta := time * clock.scale
  { clock with tick := clock.tick + 1, delta, elapsed := clock.elapsed + delta }

/-- Everything that was played, in order. -/
structure AudioLog where
  sounds : List String := []
  music : List Music := []
deriving Inhabited

namespace AudioLog

/-- Play what a request asks for; other requests make no sound. -/
def apply (log : AudioLog) : Request → AudioLog
  | .playSound path => { log with sounds := log.sounds ++ [path] }
  | .playMusic music => { log with music := log.music ++ [music] }
  | _ => log

def count (log : AudioLog) (path : String) : Nat := log.sounds.count path

end AudioLog

/-!
### The stage

A tick has six parts.  The keys of the script are read; a snapshot of all bodies
is taken; every actor has its turn, in the order of the numbers; the requests of
all turns are carried out; actors that asked for it leave; and a pending map is
switched to.  Actors that are spawned have their first turn in the next tick.
-/

/-- The stage.  `queue` holds actors to enter with the next tick, ahead of those
that events ask for. -/
structure World where
  graph : BehaviorGraph
  maxDepth : Nat
  solids : List Rectangle
  animations : AnimationRuns
  script : List KeyHold := []
  clock : Clock := {}
  input : InputState := {}
  map : MapState := {}
  audio : AudioLog := {}
  nextId : ActorId := 0
  cast : List Actor := []
  queue : List Spawn := []
deriving Inhabited

namespace World

/-- The stage of a document before its first tick, or everything that is wrong
with the document. -/
def setUp (settings : Settings) (document : Document) : Except (List LoadError) World :=
  (BehaviorGraph.load document).map fun graph =>
    { graph
      maxDepth := settings.maxDepth
      solids := document.solids.map SolidEntry.rectangle
      animations :=
        { framesPerCycle := settings.framesPerCycle
          ticksPerFrame := settings.ticksPerFrame } }

def addActor (world : World) (template : Template) (position : Vec2) (name : Option String) :
    World :=
  let actor : Actor :=
    { id := world.nextId
      template := template.name
      name
      hitboxes := template.hitboxes
      position }
  { world with nextId := world.nextId + 1, cast := world.cast ++ [actor] }

/-- Let an actor of the template of some name enter. -/
def spawn (world : World) (template : String) (position : Vec2) :
    Except LookupError World :=
  (world.graph.template template).map fun template => world.addActor template position none

/-- Let the actor of a request enter; an unknown template is passed over. -/
def carryOutSpawn (world : World) (spawn : Spawn) : World :=
  match world.graph.template spawn.template with
  | .ok template => world.addActor template spawn.position spawn.name
  | .error _ => world

/-- The bodies of all actors that stay, and the ground. -/
def snapshot (world : World) : Snapshot :=
  { bodies := (world.cast.filter fun actor => !actor.isLeaving).map Actor.body
    solids := world.solids }

/-- What the events of this tick can ask. -/
def surroundings (world : World) : Surroundings AnimationRuns :=
  let snapshot := world.snapshot
  { graph := world.graph
    maxDepth := world.maxDepth
    time := world.clock.delta
    overlaps := snapshot.overlaps
    support := snapshot.supportDistance
    button := world.input.button
    animate := AnimationRuns.request }

/-- The actors in the order of their turns. -/
def inOrder (cast : List Actor) : List Actor :=
  cast.mergeSort fun first second => first.id ≤ second.id

/-- The turns of all actors: the actors after it, and what else the turns
changed. -/
def behave (world : World) : List Actor × TurnState AnimationRuns :=
  let contacts := Snapshot.contacts world.snapshot.bodies
  world.surroundings.turns world.input.key (fun id => contacts.contains id)
    (inOrder world.cast) { map := world.map.store, animation := world.animations }

/-- The spawn among a request. -/
def spawnOf? : Request → Option Spawn
  | .spawnActor spawn => some spawn
  | _ => none

/-- Carry out the requests of a tick. -/
def carryOut (world : World) (requests : List Request) : World :=
  let spawns := world.queue ++ requests.filterMap spawnOf?
  spawns.foldl carryOutSpawn
    { world with
      map := requests.foldl MapState.apply world.map
      audio := requests.foldl AudioLog.apply world.audio
      queue := [] }

/-- Let the actors leave that asked for it. -/
def dismiss (world : World) : World :=
  let leaving := world.cast.filter Actor.isLeaving
  { world with
    cast := world.cast.filter fun actor => !actor.isLeaving
    animations := leaving.foldl (fun runs actor => runs.forget actor.id) world.animations }

/-- Switch to the pending map, if there is one. -/
def switchMap (world : World) : World :=
  match world.map.takePending with
  | (none, _) => world
  | (some _, map) => { world with map, animations := world.animations.clear }

/-- Read the keys of a new tick. -/
def readKeys (world : World) (time : Float32) : World :=
  let clock := world.clock.advance time
  { world with clock, input := world.input.update (keysDown world.script clock.tick) }

/-- Give every actor its turn and carry out what they ask for. -/
def act (world : World) : World :=
  let (cast, after) := world.behave
  { world with
    cast
    map := { world.map with store := after.map }
    animations := after.animation.sweep }.carryOut after.requests

/-- One tick of a length. -/
def tick (world : World) (time : Float32) : World :=
  (world.readKeys time).act.dismiss.switchMap

/-- Run ticks after `ran` others. -/
def runFrom (ran : Nat) : Nat → Float32 → World → Nat × World
  | 0, _, world => (ran, world)
  | ticks + 1, time, world =>
      let world := world.tick time
      if world.map.shouldStop then (ran + 1, world) else runFrom (ran + 1) ticks time world

/-- Run ticks until the map or the game is to end, and count them. -/
def runTicks (ticks : Nat) (time : Float32) (world : World) : Nat × World :=
  runFrom 0 ticks time world

end World

end Stagecraft
